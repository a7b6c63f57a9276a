import Proofread.Proofs.Dictionary.Composed
import Proofread.Proofs.Pattern.Verbatim
import Proofread.Proofs.Segment.Occurrence

namespace Proofread

open Pattern Text

namespace Dictionary.Row

variable {row : Row} {pair : Pair}

theorem makes_verbatim (given : row.Gives pair)
    (verbatim : ∀ c ∈ pair.incorrect.toList, c ∉ signs) :
    row.Makes ⟨pair.incorrect, pair.correct, .literal pair.incorrect⟩ where
  texts   := given
  pattern := ofString?_verbatim verbatim

end Dictionary.Row

namespace EmptyBrace

def remark (place : Nat) : Diagnostic where
  rule    := "empty_brace"
  message := "空欄になっています。"
  start   := place
  stop    := place + 2

theorem check_eq_standings (text : Array Char) :
    check text = (standings ['{', '}'] text.toList).map remark := by
  have starts : pattern.starts text = standings ['{', '}'] text.toList :=
    starts_literal_of_not_overlaps (by decide) (by decide)
  let said (span : Span) : Diagnostic :=
    ⟨"empty_brace", "空欄になっています。", span.start, span.stop⟩
  rw [← starts]
  exact (literal_takes _).map_findAll said

end EmptyBrace

namespace Segment

open Phrase

theorem filter_brace_pass {allows : AllowList} {text : String} (dictionary : Dictionary)
    (settings : Settings) (checked : allows.exempts text = false) :
    (pass allows dictionary settings text).diagnostics.filter (·.rule == "empty_brace")
      = (standings ['{', '}'] text.toList).map EmptyBrace.remark := by
  have braces := EmptyBrace.check_eq_standings text.toList.toArray
  rw [diagnostics_pass, checked, ← braces]
  exact filter_check dictionary settings text "empty_brace"

theorem pass_verbatim {allows : AllowList} {text : String} {row : Dictionary.Row}
    {pair : Dictionary.Pair} (settings : Settings) (checked : allows.exempts text = false)
    (given : row.Gives pair) (verbatim : ∀ c ∈ pair.incorrect.toList, c ∉ signs) :
    let chars := text.toList
    let found (dictionary : Dictionary) := (pass allows dictionary settings text).diagnostics
    ∃ entry, Dictionary.ofRows [row] = .ok [entry] ∧ entry.pair = pair ∧
      (∃ places : List Nat,
        (∀ before after, found (before ++ entry :: after) = found before
          ++ places.map (remark entry pair.incorrect.length) ++ after.flatMap (block allows text)) ∧
        (∀ hn : pair.incorrect.toList ≠ [],
          places = occurrencesFrom pair.incorrect.toList chars hn 0) ∧
        (pair.incorrect = "" → places = List.range (chars.length + 1))) ∧
      ∀ dictionary, (found dictionary).filter (·.rule == "empty_brace")
        = (standings ['{', '}'] chars).map EmptyBrace.remark := by
  intro chars found
  let entry : Dictionary.Entry := ⟨pair.incorrect, pair.correct, .literal pair.incorrect⟩
  have made : row.Makes entry := Dictionary.Row.makes_verbatim given verbatim
  refine ⟨entry, Dictionary.ofRows_eq_ok_iff.mpr (.cons made .nil), rfl,
    ⟨(literal pair.incorrect).starts chars.toArray, fun before after => ?block, fun hn => ?loop,
      fun nothing => ?nothing⟩, fun dictionary => filter_brace_pass dictionary settings checked⟩
  -- The blocks of the other entries are not known, but they stand around that of this one.
  case block =>
    have own : block allows text entry = ((literal pair.incorrect).starts chars.toArray).map
        (remark entry pair.incorrect.length) := by
      rw [block, checked]
      exact checkEntry_eq_remark chars.toArray (literal_takes pair.incorrect)
    simp only [found]
    rw [diagnostics_pass_blocks, diagnostics_pass_blocks _ _ _ before, List.flatMap_append,
      List.flatMap_cons, own, List.append_assoc, List.append_assoc]
  case loop    => exact starts_literal hn
  case nothing => rw [nothing, starts_empty, List.size_toArray]

theorem pass_verbatim_overlapping :
    let allows : AllowList := ["ab"]
    let text := "aaa\x7b\x7d"
    let row : Dictionary.Row := .list [.string "aa", .string "b"]
    let found (dictionary : Dictionary) := (pass allows dictionary {} text).diagnostics
    allows.exempts text = false ∧ row.Gives ⟨"aa", "b"⟩ ∧ (∀ c ∈ "aa".toList, c ∉ signs) ∧
      ∃ entry, Dictionary.ofRows [row] = .ok [entry] ∧
        ∀ before, found (before ++ [entry]) = found before ++ [remark entry 2 0] := by
  intro allows text row found
  have checked : allows.exempts text = false := by decide +kernel
  have given : row.Gives ⟨"aa", "b"⟩ := .list ⟨"aa", "b"⟩
  have verbatim : ∀ c ∈ "aa".toList, c ∉ signs := by
    intro c hc
    obtain rfl : c = 'a' := by simpa using hc
    decide
  have ⟨entry, made, _, ⟨places, blocks, loop, _⟩, _⟩ := pass_verbatim {} checked given verbatim
  refine ⟨checked, given, verbatim, entry, made, fun before => ?_⟩
  have once : places = [0] := by
    rw [loop (by decide)]
    decide +kernel
  rw [once] at blocks
  exact (blocks before []).trans (List.append_nil _)

end Segment

end Proofread
