import Proofread.Proofs.Pattern.Phrase
import Proofread.Proofs.Segment.Builtin
import Proofread.Proofs.Segment.Reports

namespace Proofread

namespace Pattern

variable {p : Pattern} {c : Char} {report : Array Char → Finding → List Diagnostic}

theorem flatMap_append_cons (hp : p.avoids c) (hr : p.Reports report) (a b : List Char) :
    (p.findAll (a ++ c :: b).toArray).flatMap (report (a ++ c :: b).toArray)
      = (p.findAll a.toArray).flatMap (report a.toArray)
        ++ ((p.findAll b.toArray).flatMap (report b.toArray)).map (·.shift (a.length + 1)) := by
  rw [findAll_append_cons a b hp, List.flatMap_append, List.flatMap_map, List.map_flatMap]
  congr 1
  · refine List.flatMap_congr fun f hf => ?_
    have := hr (piece_left (c := c) a b) f hf
    rwa [shift_zero, funext Diagnostic.shift_zero, List.map_id'] at this
  · exact List.flatMap_congr fun f hf => hr (piece_right a b) f hf

theorem contains_space :
    (CharSet.Item.category ⟨.space, false, false⟩).contains .exact c.toNat
      = Unicode.isSpace c.toNat :=
  Bool.bne_false _

end Pattern

-- A character that no check of the segment pass reads.
structure Separator (c : Char) : Prop where
  not_space       : Unicode.isSpace c.toNat = false
  not_lower       : ¬('a' ≤ c ∧ c ≤ 'z')
  not_upper       : ¬('A' ≤ c ∧ c ≤ 'Z')
  not_digit       : ¬('0' ≤ c ∧ c ≤ '9')
  not_wide_digit  : ¬('１' ≤ c ∧ c ≤ '９')
  not_sign        : c ∉ ['\x7b', '\x7d', '\\', '.', ',']
  not_japanese    : ∀ item ∈ ItalicVariable.japanese, item.contains .exact c.toNat = false
  not_punctuation : c ∉ "、。，．・「」『』（）".toList

variable {c : Char}

namespace EmptyBrace

theorem check_separated (h : Separator c) (a b : List Char) :
    check (a ++ c :: b).toArray
      = check a.toArray ++ (check b.toArray).map (·.shift (a.length + 1)) := by
  have signs := h.not_sign
  have avoids : pattern.avoids c := Pattern.literal_avoids (by simp at signs; simp [signs])
  simp only [check_eq, Pattern.flatMap_append_cons avoids pattern_reports]

end EmptyBrace

namespace ItalicVariable

theorem neighbour_avoids (h : Separator c) (settings : Settings) :
    (neighbour settings).contains c = false := by
  have marks (item) (hi : item ∈ punctuation) : item.contains .exact c.toNat = false := by
    cases List.mem_append.mp hi
    case inr hi => exact List.mem_singleton.mp hi ▸ Pattern.contains_space.trans h.not_space
    case inl hi =>
      have ⟨x, hx, he⟩ := List.mem_map.mp hi
      have signs := h.not_sign
      have marks := h.not_punctuation
      refine he ▸ Bool.eq_false_iff.mpr (Pattern.contains_point.not.mpr fun hc => ?_)
      simp_all
  simp only [neighbour, CharSet.contains, Bool.bne_false, List.any_eq_false]
  intro item hi
  split at hi
  case isTrue =>
    cases List.mem_append.mp hi
    case inl hi => simp [h.not_japanese item hi]
    case inr hi => simp [marks item hi]
  case isFalse => simp [h.not_japanese item hi]

theorem letter_avoids (h : Separator c) : letter.contains c = false := by
  rw [letter, Pattern.contains_ofRanges, List.forall_mem_cons, List.forall_mem_singleton]
  exact ⟨h.not_lower, h.not_upper⟩

theorem check_separated (h : Separator c) (settings : Settings) (a b : List Char) :
    check settings (a ++ c :: b).toArray
      = check settings a.toArray ++ (check settings b.toArray).map (·.shift (a.length + 1)) := by
  have avoids : (pattern settings).avoids c := by
    simp [pattern, Pattern.concat, Pattern.avoids, neighbour_avoids h, letter_avoids h]
  simp only [check_eq, Pattern.flatMap_append_cons avoids (pattern_reports settings)]

end ItalicVariable

namespace Uncertainty

open Pattern

theorem pattern_avoids (h : Separator c) : pattern.avoids c := by
  have signs := h.not_sign
  simp only [List.mem_cons, List.not_mem_nil, or_false, not_or] at signs
  have digit : (CharSet.ofRanges [('0', '9')]).contains c = false := by
    rw [contains_ofRanges, List.forall_mem_singleton]
    exact h.not_digit
  have letter (x) (hx : 'a' ≤ x ∧ x ≤ 'z') : c ≠ x := fun hc => h.not_lower (hc ▸ hx)
  have plus : (literal "pm").avoids c := literal_avoids (by simp [letter])
  have minus : (literal "mp").avoids c := literal_avoids (by simp [letter])
  have blank : space.avoids c := by
    simp [space, avoids, CharSet.ofCategory, CharSet.contains, contains_space, h.not_space]
  simp [pattern, concat, number, sign, digits, many1, many, Pattern.optional, avoids, digit,
    ofChar_avoids signs.2.2.2.1, ofChar_avoids signs.2.2.1, plus, minus, blank]

theorem check_separated (h : Separator c) (settings : Settings) (a b : List Char) :
    check settings (a ++ c :: b).toArray
      = check settings a.toArray ++ (check settings b.toArray).map (·.shift (a.length + 1)) := by
  simp only [check_eq, Pattern.flatMap_append_cons (pattern_avoids h) (pattern_reports settings)]

end Uncertainty

namespace Phrase

theorem ne_of_isJapanese (h : Separator c) {x : Char} (hx : isJapanese x) : c ≠ x := by
  rintro rfl
  have ⟨item, hi, hc⟩ := List.any_eq_true.mp hx
  exact Bool.eq_false_iff.mp (h.not_japanese item hi) hc

theorem builtin_avoids (h : Separator c) {entry : Dictionary.Entry}
    (he : entry ∈ Dictionary.builtin) : entry.pattern.avoids c := by
  obtain ⟨hp, _, letters⟩ | hp := builtin_cases entry he <;> rw [hp]
  case inl => exact Pattern.literal_avoids fun hc => ne_of_isJapanese h (List.all_eq_true.mp letters c hc) rfl
  case inr =>
    refine Pattern.concat_avoids fun p hm => ?_
    cases List.mem_append.mp hm
    case inl hm =>
      have ⟨x, hx, hp⟩ := List.mem_map.mp hm
      have letters : "グラフ".toList.all isJapanese := by decide +kernel
      exact hp ▸ Pattern.ofChar_avoids (ne_of_isJapanese h (List.all_eq_true.mp letters x hx))
    case inr hm =>
      have number : (CharSet.ofRanges [('1', '9'), ('１', '９')]).contains c = false := by
        rw [Pattern.contains_ofRanges, List.forall_mem_cons, List.forall_mem_singleton]
        exact ⟨fun hc => h.not_digit ⟨Char.le_trans (by decide) hc.1, hc.2⟩, h.not_wide_digit⟩
      rw [List.mem_singleton.mp hm]
      exact congrArg not number

theorem checkEntry_separated (h : Separator c) {entry : Dictionary.Entry}
    (he : entry ∈ Dictionary.builtin) (a b : List Char) :
    checkEntry (a ++ c :: b).toArray entry
      = checkEntry a.toArray entry ++ (checkEntry b.toArray entry).map (·.shift (a.length + 1)) := by
  simp only [checkEntry_eq,
    Pattern.flatMap_append_cons (builtin_avoids h he) (pattern_reports entry)]

end Phrase

namespace Segment

def Separates (settings : Settings) (c : Char) (kind : Diagnostic → Bool) (a b : String) : Prop :=
  let found (text : String) := (pass [] .builtin settings text).diagnostics.filter kind
  found (a ++ String.singleton c ++ b) = found a ++ (found b).map (·.shift (a.length + 1))

theorem chars_separated (a b : String) :
    (a ++ String.singleton c ++ b).toList.toArray = (a.toList ++ c :: b.toList).toArray := by
  simp

theorem pass_separated (h : Separator c) (settings : Settings) (a b : String) :
    (∀ rule, rule ≠ "dictionary" → Separates settings c (·.rule == rule) a b) ∧
      ∀ said, Separates settings c (fun d => d.rule == "dictionary" && d.message == said) a b := by
  constructor
  case left =>
    -- Each rule belongs to one check, so the others have no part in its findings.
    intro rule hr
    simp only [Separates, pass_of_allows_nil, filter_check, chars_separated, hr, if_false,
      EmptyBrace.check_separated h, ItalicVariable.check_separated h,
      Uncertainty.check_separated h, String.length_toList]
    split
    case isTrue => rfl
    case isFalse =>
      split
      case isTrue  => rfl
      case isFalse =>
        rw [List.filter_append, List.filter_map]
        rfl
  case right =>
    intro said
    simp only [Separates, filter_message_pass, chars_separated]
    cases he : Dictionary.builtin.find? (Phrase.message · == said)
    case none => rfl
    case some entry =>
      exact Phrase.checkEntry_separated h (List.mem_of_find?_eq_some he) a.toList b.toList

-- The first letter stands beside the separator, so only the second one is between two neighbours.
theorem pass_separated_bar :
    let found (kind : Diagnostic → Bool) :=
      (pass [] .builtin {} "のx|のyの1\\pm2.5").diagnostics.filter kind
    Separator '|' ∧
      found (·.rule == "italic_variable")
        = [⟨"italic_variable", "斜体にしていない可能性が高い文字: y", 4, 5⟩] ∧
      found (·.rule == "uncertainty_decimal_places")
        = [⟨"uncertainty_decimal_places", "小数点以下の桁数が揃っていません: 1\\pm2.5", 6, 13⟩] := by
  intro found
  have h : Separator '|' := by constructor <;> decide
  have first : (pass [] .builtin {} "のx").diagnostics = [] := by decide +kernel
  have second : (pass [] .builtin {} "のyの1\\pm2.5").diagnostics
      = [⟨"italic_variable", "斜体にしていない可能性が高い文字: y", 1, 2⟩,
        ⟨"uncertainty_decimal_places", "小数点以下の桁数が揃っていません: 1\\pm2.5", 3, 10⟩] := by
    decide +kernel
  have ⟨separated, _⟩ := pass_separated h {} "のx" "のyの1\\pm2.5"
  refine ⟨h, (separated "italic_variable" (by decide)).trans ?_,
    (separated "uncertainty_decimal_places" (by decide)).trans ?_⟩
  · simp only [first, second]
    rfl
  · simp only [first, second]
    rfl

end Segment

end Proofread
