import Mathlib.Data.List.Basic
import Proofread.Proofs.Pattern.Pieces
import Proofread.Segment

namespace Proofread

def Diagnostic.shift (n : Nat) (d : Diagnostic) : Diagnostic :=
  { d with start := d.start + n, stop := d.stop + n }

theorem Diagnostic.shift_zero (d : Diagnostic) : d.shift 0 = d := by
  simp [shift]

namespace Pattern

variable {p : Pattern} {report : Array Char → Finding → List Diagnostic}

theorem Piece.span_slice {c : Char} {part whole : Array Char} {start : Nat}
    (h : Piece c part whole start) {f : Finding} (hf : f ∈ p.findAll part) :
    (f.shift start).span.slice whole = f.span.slice part := by
  have ⟨_, _, hlt, hm⟩ := findFrom_spec hf
  exact h.slice_shift ((matchesAt_spec hm).2.bounds (by omega)).2

-- What is said of a finding depends on the piece that it is in, and on its place there.
def Reports (p : Pattern) (report : Array Char → Finding → List Diagnostic) : Prop :=
  ∀ {c : Char} {part whole : Array Char} {start : Nat}, Piece c part whole start →
    ∀ f ∈ p.findAll part, report whole (f.shift start) = (report part f).map (·.shift start)

end Pattern

namespace EmptyBrace

def report (_ : Array Char) (finding : Finding) : List Diagnostic :=
  [diagnostic finding]

theorem pattern_reports : pattern.Reports report := by
  intro c part whole start _ f _
  simp [report, diagnostic, Finding.shift, Span.shift, Diagnostic.shift, Int.add_comm]

theorem check_eq (text : Array Char) : check text = (pattern.findAll text).flatMap (report text) := by
  rw [check, List.map_eq_flatMap]
  rfl

end EmptyBrace

namespace ItalicVariable

def report (text : Array Char) (finding : Finding) : List Diagnostic :=
  ((finding.group? 1).map (diagnostic text)).toList

theorem check_eq (settings : Settings) (text : Array Char) :
    check settings text = ((pattern settings).findAll text).flatMap (report text) := by
  rw [check, List.filterMap_eq_flatMap_toList]
  rfl

theorem pattern_reports (settings : Settings) : (pattern settings).Reports report := by
  intro c part whole start h f hf
  have group : (f.shift start).group? 1 = (f.group? 1).map (·.shift start) :=
    lookup_shiftGroups start 1 f.groups
  rw [report, report, group]
  cases hg : f.group? 1
  case none => rfl
  case some span =>
    have slice := h.slice_shift (Pattern.findAll_group_le hf hg)
    simp only [Option.map_some, Option.toList_some, diagnostic, slice]
    simp [Span.shift, Diagnostic.shift, Int.add_comm]

end ItalicVariable

namespace Uncertainty

def report (settings : Settings) (text : Array Char) (finding : Finding) : List Diagnostic :=
  (ofFinding text finding).check settings

theorem check_eq (settings : Settings) (text : Array Char) :
    check settings text = (pattern.findAll text).flatMap (report settings text) :=
  List.flatMap_map ..

theorem Expression.check_shift (settings : Settings) (e : Expression) (n : Nat) :
    ({ e with span := e.span.shift n } : Expression).check settings
      = (e.check settings).map (·.shift n) := by
  have moved (rule message : String) :
      ({ e with span := e.span.shift n } : Expression).diagnostic rule message
        = (e.diagnostic rule message).shift n := by
    simp [diagnostic, Span.shift, Diagnostic.shift, Int.add_comm]
  simp only [check, decimalPlaces, significantFigures, exponentNotation, moved, List.map_append,
    apply_ite (List.map _), List.map_cons, List.map_nil]
  rfl

theorem pattern_reports (settings : Settings) : pattern.Reports (report settings) := by
  intro c part whole start h f hf
  have moved : ofFinding whole (f.shift start)
      = { ofFinding part f with span := f.span.shift start } := by
    simp [ofFinding, ofFinding.part, h.group_slice hf, h.span_slice hf]
    rfl
  rw [report, moved]
  exact Expression.check_shift settings (ofFinding part f) start

end Uncertainty

namespace Phrase

def report (entry : Dictionary.Entry) (_ : Array Char) (finding : Finding) : List Diagnostic :=
  [diagnostic entry finding]

theorem checkEntry_eq (entry : Dictionary.Entry) (text : Array Char) :
    checkEntry text entry = (entry.pattern.findAll text).flatMap (report entry text) := by
  rw [checkEntry, List.map_eq_flatMap]
  rfl

theorem pattern_reports (entry : Dictionary.Entry) : entry.pattern.Reports (report entry) := by
  intro c part whole start _ f _
  simp [report, diagnostic, Finding.shift, Span.shift, Diagnostic.shift, Int.add_comm]

end Phrase

end Proofread
