import Proofread.Document
import Proofread.Proofs.Pattern.Delimited
import Proofread.Proofs.Segment.Builtin
import Proofread.Proofs.Segment.Reports

namespace Proofread

variable {part whole : Array Char}

namespace Pattern

variable {p : Pattern} {report : Array Char → Finding → List Diagnostic}

theorem piece_of_initial (h : part.toList <+: whole.toList) : ∃ c, Piece c part whole 0 := by
  refine ⟨whole[part.size]?.getD ' ', ?_, fun pos hp => ?_, fun d hd => ?_⟩
  · simpa using size_le_of_initial h
  · simpa using getElem?_of_initial h hp
  · simp at hd
    simp [hd]

theorem flatMap_mono (hr : p.Reports report) (hp : p.isPlain) (prompt : p.IsPrompt whole)
    (h : part.toList <+: whole.toList) :
    (p.findAll part).flatMap (report part) <+: (p.findAll whole).flatMap (report whole) := by
  have ⟨_, piece⟩ := piece_of_initial h
  have ⟨more, found⟩ := prompt.findAll_mono h hp
  have same : (p.findAll part).flatMap (report part) = (p.findAll part).flatMap (report whole) := by
    refine List.flatMap_congr fun f hf => ?_
    have := hr piece f hf
    rwa [shift_zero, funext Diagnostic.shift_zero, List.map_id', eq_comm] at this
  rw [same, ← found, List.flatMap_append]
  exact List.prefix_append _ _

end Pattern

theorem EmptyBrace.check_mono (h : part.toList <+: whole.toList) : check part <+: check whole := by
  have prompt : pattern.IsPrompt whole := (Pattern.literal_takes _).isPrompt (by decide)
  rw [check_eq, check_eq]
  exact Pattern.flatMap_mono pattern_reports (Pattern.literal_isPlain _) prompt h

namespace ItalicVariable

theorem pattern_takes (settings : Settings) : (pattern settings).Takes 3 := by
  refine Pattern.concat_takes fun p hp => ?_
  simp only [List.mem_cons, List.not_mem_nil, or_false] at hp
  obtain rfl | rfl | rfl := hp
  · exact Pattern.char_takes _
  · exact (Pattern.char_takes _).group 1
  · exact Pattern.char_takes _

theorem check_mono (settings : Settings) (h : part.toList <+: whole.toList) :
    check settings part <+: check settings whole := by
  have prompt : (pattern settings).IsPrompt whole := (pattern_takes settings).isPrompt (by decide)
  rw [check_eq, check_eq]
  exact Pattern.flatMap_mono (pattern_reports settings) rfl prompt h

end ItalicVariable

namespace Phrase

theorem builtin_isPlain : ∀ entry ∈ Dictionary.builtin, entry.pattern.isPlain := by
  decide +kernel

theorem graphPattern_takes : Dictionary.graphPattern.Takes 4 := by
  refine Pattern.concat_takes fun p hp => ?_
  cases List.mem_append.mp hp
  case inl hp =>
    have ⟨_, _, he⟩ := List.mem_map.mp hp
    exact he ▸ Pattern.char_takes _
  case inr hp => exact List.mem_singleton.mp hp ▸ Pattern.char_takes _

theorem checkEntry_mono {entry : Dictionary.Entry} (he : entry ∈ Dictionary.builtin)
    (h : part.toList <+: whole.toList) : checkEntry part entry <+: checkEntry whole entry := by
  have prompt : entry.pattern.IsPrompt whole := by
    obtain ⟨hp, hl, _⟩ | hp := builtin_cases entry he <;> rw [hp]
    case inl => exact (Pattern.literal_takes _).isPrompt hl
    case inr => exact graphPattern_takes.isPrompt (by decide)
  rw [checkEntry_eq, checkEntry_eq]
  exact Pattern.flatMap_mono (pattern_reports entry) (builtin_isPlain entry he) prompt h

end Phrase

namespace Caption

theorem repeats_mono {captions captions' : List Caption} (h : captions <+: captions')
    (seen : List (List Char)) : repeats seen captions <+: repeats seen captions' := by
  obtain ⟨more, rfl⟩ := h
  induction captions generalizing seen
  case nil => exact List.nil_prefix
  case cons caption captions ih =>
    rw [List.cons_append, repeats, repeats]
    split
    case isTrue  => exact (List.prefix_cons_inj caption).mpr (ih seen)
    case isFalse => exact ih (caption.content :: seen)

theorem findAll_mono (h : part.toList <+: whole.toList) : findAll part <+: findAll whole := by
  have ⟨_, piece⟩ := Pattern.piece_of_initial h
  have same : findAll part = (pattern.findAll part).map (ofFinding whole) := by
    refine List.map_congr_left fun f hf => ?_
    have content := piece.group_slice hf 1
    rw [Pattern.shift_zero] at content
    rw [ofFinding, ofFinding, content]
  rw [same]
  have plain : pattern.isPlain := Pattern.delimited_isPlain "\\caption\x7b" "\x7d"
  have prompt : pattern.IsPrompt whole := Pattern.delimited_isPrompt (by decide) "\x7d"
  exact (prompt.findAll_mono h plain).map _

theorem check_mono (h : part.toList <+: whole.toList) : check part <+: check whole :=
  (repeats_mono (findAll_mono h) []).map diagnostic

end Caption

theorem MathDelimiter.rule_eq {text : Array Char} {d : Diagnostic} (h : d ∈ check text) :
    d.rule = "mixed_math_delimiter" := by
  simp only [check] at h
  split at h
  case isTrue => cases h
  case isFalse =>
    have ⟨_, _, he⟩ := List.mem_map.mp h
    exact he ▸ rfl

theorem Document.filter_caption_check (text : String) :
    (check text).filter (·.rule == "duplicate_caption") = Caption.check text.toList.toArray := by
  rw [check, List.filter_append, List.filter_eq_self.mpr, List.filter_eq_nil_iff.mpr,
    List.append_nil]
  · exact fun d hd => by simp [MathDelimiter.rule_eq hd]
  · intro d hd
    have ⟨_, _, he⟩ := List.mem_map.mp hd
    exact he ▸ rfl

-- None of these patterns looks at what comes behind its match. The formulas are left out, as more text
-- may turn the rarer style into the more frequent one, and so are the uncertainties, as it may add
-- digits to the last number.
theorem pass_append (settings : Settings) (text more : String) :
    let captions (text : String) :=
      (Document.pass text).diagnostics.filter (·.rule == "duplicate_caption")
    let found (text : String) (kind : Diagnostic → Bool) :=
      (Segment.pass [] .builtin settings text).diagnostics.filter kind
    captions text <+: captions (text ++ more) ∧
      (∀ rule ∈ ["empty_brace", "italic_variable"],
        found text (·.rule == rule) <+: found (text ++ more) (·.rule == rule)) ∧
      (∀ said, found text (fun d => d.rule == "dictionary" && d.message == said)
        <+: found (text ++ more) (fun d => d.rule == "dictionary" && d.message == said)) ∧
      (Dictionary.builtin.map Phrase.message).Nodup := by
  have h : text.toList.toArray.toList <+: (text ++ more).toList.toArray.toList := by simp
  refine ⟨?captions, fun rule hr => ?rules, fun said => ?phrases, ?messages⟩
  case captions =>
    simp only [Document.pass, Document.filter_caption_check]
    exact Caption.check_mono h
  case rules =>
    simp only [Segment.pass_of_allows_nil, Segment.filter_check]
    simp only [List.mem_cons, List.not_mem_nil, or_false] at hr
    obtain rfl | rfl := hr
    · exact EmptyBrace.check_mono h
    · exact ItalicVariable.check_mono settings h
  -- A message belongs to one entry only, so what bears it is what a single pattern finds.
  case phrases =>
    simp only [Segment.filter_message_pass]
    cases he : Dictionary.builtin.find? (Phrase.message · == said)
    case none       => exact List.nil_prefix
    case some entry => exact Phrase.checkEntry_mono (List.mem_of_find?_eq_some he) h
  case messages => exact Dictionary.builtin_messages_nodup

-- The last caption is closed only where the text goes on.
example :
    let text := "\\caption\x7bx\x7d\\caption\x7bx\x7d\\caption\x7bx"
    let again (start stop : Int) : Diagnostic :=
      ⟨"duplicate_caption", "重複したキャプション: \"x\"", start, stop⟩
    (Document.pass text).diagnostics = [again 11 22] ∧
      (Document.pass (text ++ "\x7d")).diagnostics = [again 11 22, again 22 33] := by
  decide +kernel

end Proofread
