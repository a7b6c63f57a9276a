import Mathlib.Data.List.Perm.Subperm
import Mathlib.Data.List.Sort
import Proofread.Proofs.Appended
import Proofread.Proofs.Pattern.Run

namespace Proofread

namespace ItalicVariable

open Pattern Text

def isLatin (c : Char) : Bool :=
  decide ('a' ≤ c ∧ c ≤ 'z' ∨ 'A' ≤ c ∧ c ≤ 'Z')

theorem letter_contains : letter.contains = isLatin := by
  funext c
  rw [Bool.eq_iff_iff]
  simp only [letter, CharSet.ofRanges, CharSet.contains, List.map_cons, List.map_nil, List.any_cons,
    List.any_nil, Bool.or_false, Bool.bne_false, Bool.or_eq_true, contains_range, isLatin,
    decide_eq_true_eq]

theorem neighbour_mono {settings : Settings} {c : Char} (h : (neighbour settings).contains c) :
    (neighbour { settings with punctuation := true }).contains c := by
  simp only [neighbour, CharSet.contains, Bool.bne_false] at h ⊢
  split at h
  case isTrue  => exact h
  case isFalse => simp [h]

theorem not_isLatin_of_neighbour {settings : Settings} {c : Char}
    (h : (neighbour settings).contains c) : isLatin c = false := by
  have ascii : ∀ n < 128, isLatin (Char.ofNat n) →
      (neighbour { punctuation := true }).contains (Char.ofNat n) = false := by
    decide +kernel
  refine Bool.eq_false_iff.mpr fun hl => ?_
  have small : c.toNat < 128 := by
    simp only [isLatin, decide_eq_true_eq, Char.le_def, UInt32.le_iff_toNat_le,
      Char.toNat_val] at hl
    have : 'Z'.toNat = 90 := rfl
    have : 'z'.toNat = 122 := rfl
    omega
  have other := ascii c.toNat small
  rw [Char.ofNat_toNat] at other
  exact Bool.eq_false_iff.mp (other hl) (neighbour_mono h)

def isCandidate (settings : Settings) (text : List Char) : (place : Nat) → Bool
  | 0          => false
  | before + 1 =>
    isAt (neighbour settings).contains text before && isAt isLatin text (before + 1)
      && isAt (neighbour settings).contains text (before + 2)

-- The letter two places before may have used up the neighbour between them.
def isReported (settings : Settings) (text : List Char) : (place : Nat) → Bool
  | place + 2 => isCandidate settings text (place + 2) && !isReported settings text place
  | place     => isCandidate settings text place

def places (settings : Settings) (text : List Char) : List Nat :=
  (List.range text.length).filter (isReported settings text)

def remark (text : List Char) (place : Nat) : Diagnostic where
  rule    := "italic_variable"
  message := "斜体にしていない可能性が高い文字: " ++ String.ofList text[place]?.toList
  start   := place
  stop    := place + 1

variable {settings : Settings} {text : List Char} {place pos : Nat}

theorem isCandidate_lt (h : isCandidate settings text (pos + 1)) : pos + 2 < text.length := by
  simp only [isCandidate, Bool.and_eq_true] at h
  exact lt_length_of_isAt h.2

theorem not_isCandidate_succ (h : isCandidate settings text place) :
    isCandidate settings text (place + 1) = false := by
  cases place
  case zero => cases h
  case succ before =>
    simp only [isCandidate, Bool.and_eq_true] at h
    have letter : isAt isLatin text (before + 2) = false :=
      not_isAt not_isLatin_of_neighbour h.2
    simp [isCandidate, letter]

theorem isReported_iff :
    isReported settings text place ↔
      isCandidate settings text place ∧ ∀ q, isReported settings text q → q + 2 ≠ place := by
  match place with
  | 0         => exact (and_iff_left fun q _ => by omega).symm
  | 1         => exact (and_iff_left fun q _ => by omega).symm
  | place + 2 =>
    rw [isReported, Bool.and_eq_true, Bool.not_eq_true', Bool.eq_false_iff]
    refine and_congr_right fun _ => ⟨fun free q hq he => ?_, fun free hq => free place hq rfl⟩
    obtain rfl : q = place := by omega
    exact free hq

theorem ways_pattern (settings : Settings) (text : List Char) (pos : Nat) :
    (pattern settings).ways text.toArray ⟨pos, []⟩
      = if isCandidate settings text (pos + 1) then [⟨pos + 3, [(1, ⟨pos + 1, pos + 2⟩)]⟩]
        else [] := by
  have middle (s : Progress) : (group 1 (char letter)).ways text.toArray s
      = if isAt isLatin text s.pos then
          [Progress.setGroup { s with pos := s.pos + 1 } 1 ⟨s.pos, s.pos + 1⟩] else [] := by
    rw [ways, ways_char, letter_contains]
    split <;> rfl
  rw [pattern, ways_concat_cons, ways_char, isCandidate]
  by_cases before : isAt (neighbour settings).contains text pos
  case neg => simp [before]
  case pos =>
    rw [if_pos before, List.flatMap_singleton, ways_concat_cons, middle]
    by_cases here : isAt isLatin text (pos + 1)
    case neg => simp [here]
    case pos =>
      rw [if_pos here, List.flatMap_singleton, concat, ways_char]
      simp [before, here, Progress.setGroup, Nat.add_assoc]

theorem matches_pattern :
    (pattern settings).Matches text.toArray pos (pos + 3) ↔ isCandidate settings text (pos + 1) := by
  rw [Matches, ways_pattern]
  split <;> simp_all

theorem check_eq_remark (settings : Settings) (text : List Char) :
    check settings text.toArray
      = ((pattern settings).starts text.toArray).map fun start => remark text (start + 1) := by
  have prompt : (pattern settings).IsPrompt text.toArray :=
    (pattern_takes settings).isPrompt (by decide)
  have letter {f : Finding} (hf : f ∈ (pattern settings).findAll text.toArray) :
      f.group? 1 = some ⟨f.span.start + 1, f.span.start + 2⟩ := by
    have ⟨_, _, _, hm⟩ := findFrom_spec hf
    rw [prompt.matchesAt_eq, matchAt?_true, ways_pattern] at hm
    split at hm <;> simp at hm
    rw [hm]
    rfl
  rw [check, starts, List.map_map, List.map_map, ← List.filterMap_eq_map]
  refine List.filterMap_congr fun f hf => ?_
  have one : (Span.mk (f.span.start + 1) (f.span.start + 2)).slice text.toArray
      = text[f.span.start + 1]?.toList := by
    simp [Span.slice, List.extract_eq_take_drop, List.take_one]
  simp [letter hf, diagnostic, remark, one, Int.add_assoc]

theorem isCandidate_of_mem_starts (h : pos ∈ (pattern settings).starts text.toArray) :
    isCandidate settings text (pos + 1) :=
  matches_pattern.mp ((pattern_takes settings).matches_of_mem_starts h)

-- What is found two places before stands in the way, and nothing is found one place before.
theorem mem_starts_iff_isCandidate :
    pos ∈ (pattern settings).starts text.toArray ↔
      isCandidate settings text (pos + 1) ∧
        ∀ q, q + 2 = pos → q ∉ (pattern settings).starts text.toArray := by
  have found (h : isCandidate settings text (pos + 1)) :=
    have := isCandidate_lt h
    (pattern_takes settings).mem_starts_iff (show pos ≤ text.toArray.size by simp; omega)
  constructor
  case mp =>
    intro hm
    have hc := isCandidate_of_mem_starts hm
    refine ⟨hc, fun q hq hm' => ?_⟩
    have := ((found hc).mp hm).2 q hm' (by omega)
    omega
  case mpr =>
    rintro ⟨hc, free⟩
    refine (found hc).mpr ⟨matches_pattern.mpr hc, fun q hq hlt => Nat.le_of_not_lt fun into => ?_⟩
    -- A match takes three characters, and next to a letter there is a neighbour, which is no letter.
    obtain rfl | he : pos = q + 1 ∨ q + 2 = pos := by omega
    · have := not_isCandidate_succ (isCandidate_of_mem_starts hq)
      simp [hc] at this
    · exact free q he hq

theorem mem_starts_iff_isReported (settings : Settings) (text : List Char) (pos : Nat) :
    pos ∈ (pattern settings).starts text.toArray ↔ isReported settings text (pos + 1) := by
  rw [mem_starts_iff_isCandidate, isReported_iff]
  refine and_congr_right fun _ => ⟨fun free q hq he => ?_, fun free q he hm => ?_⟩
  · cases q
    case zero   => cases hq
    case succ q =>
      exact free q (by omega) ((mem_starts_iff_isReported settings text q).mpr hq)
  · exact free (q + 1) ((mem_starts_iff_isReported settings text q).mp hm) (by omega)

theorem mem_places_iff : place ∈ places settings text ↔ isReported settings text place := by
  rw [places, List.mem_filter, List.mem_range]
  refine and_iff_right_of_imp fun h => ?_
  cases place
  case zero        => cases h
  case succ before =>
    have := isCandidate_lt (isReported_iff.mp h).1
    omega

theorem starts_eq_places (settings : Settings) (text : List Char) :
    ((pattern settings).starts text.toArray).map (· + 1) = places settings text := by
  refine List.Pairwise.eq_of_mem_iff (r := (· < ·)) ?sorted ?filtered fun place => ?_
  case sorted =>
    rw [List.pairwise_map]
    exact (pattern_takes settings).starts_apart.imp fun h => by omega
  case filtered => exact List.pairwise_lt_range.filter _
  rw [mem_places_iff, List.mem_map]
  cases place
  case zero        => simp [isReported, isCandidate]
  case succ before => simp [mem_starts_iff_isReported]

theorem check_eq_places (settings : Settings) (text : List Char) :
    check settings text.toArray = (places settings text).map (remark text) := by
  rw [check_eq_remark, ← starts_eq_places, List.map_map]
  rfl

theorem places_apart (settings : Settings) (text : List Char) :
    (places settings text).Pairwise (· + 3 ≤ ·) := by
  rw [← starts_eq_places, List.pairwise_map]
  exact (pattern_takes settings).starts_apart.imp fun h => by omega

section

variable (settings : Settings) (text : List Char)

def widened : Settings :=
  { settings with punctuation := true }

variable {settings text} in
theorem isCandidate_widened (h : isCandidate settings text place) :
    isCandidate (widened settings) text place := by
  cases place
  case zero        => cases h
  case succ before =>
    simp only [isCandidate, Bool.and_eq_true] at h ⊢
    exact ⟨⟨isAt_imp neighbour_mono h.1.1, h.1.2⟩, isAt_imp neighbour_mono h.2⟩

theorem mem_places_widened (h : place ∈ places settings text) :
    place ∈ places (widened settings) text ∨ ∃ q ∈ places (widened settings) text, q + 2 = place := by
  simp only [mem_places_iff] at h ⊢
  have candidate := isCandidate_widened (isReported_iff.mp h).1
  refine or_iff_not_imp_right.mpr fun free => isReported_iff.mpr ⟨candidate, fun q hq he => ?_⟩
  exact free ⟨q, hq, he⟩

-- Reported letters are too far apart for two of them to give way to the same one.
theorem length_places_widened :
    (places settings text).length ≤ (places (widened settings) text).length := by
  -- Where a letter goes that is not reported any more: to the one that has taken its neighbour.
  let target (place : Nat) : Nat := if place ∈ places (widened settings) text then place else place - 2
  have within : (places settings text).map target ⊆ places (widened settings) text := by
    intro other ho
    obtain ⟨place, hp, rfl⟩ := List.mem_map.mp ho
    simp only [target]
    split
    case isTrue hw  => exact hw
    case isFalse hw =>
      obtain ⟨q, hq, rfl⟩ := (mem_places_widened settings text hp).resolve_left hw
      exact hq
  have sorted : ((places settings text).map target).Pairwise (· < ·) := by
    rw [List.pairwise_map]
    refine (places_apart settings text).imp fun {a b} h => ?_
    have : target a ≤ a := by
      simp only [target]
      split <;> omega
    have : b ≤ target b + 2 := by
      simp only [target]
      split <;> omega
    omega
  have := (List.subperm_of_subset sorted.nodup within).length_le
  rwa [List.length_map] at this

end

end ItalicVariable

namespace Segment

open ItalicVariable

theorem filter_variable_pass (allows : AllowList) (dictionary : Dictionary) (settings : Settings)
    (text : String) :
    (pass allows dictionary settings text).diagnostics.filter (·.rule == "italic_variable")
      = if allows.exempts text then [] else
          (places settings text.toList).map (remark text.toList) := by
  rw [diagnostics_pass, apply_ite (List.filter _), ← check_eq_places]
  exact congrArg _ (filter_check dictionary settings text "italic_variable")

theorem filter_other_check (dictionary : Dictionary) (settings : Settings) (text : String) :
    (check dictionary settings text).filter (·.rule != "italic_variable")
      = (check dictionary (widened settings) text).filter (·.rule != "italic_variable") := by
  have none (settings : Settings) :
      (ItalicVariable.check settings text.toList.toArray).filter (·.rule != "italic_variable") = [] :=
    List.filter_eq_nil_iff.mpr fun d hd => by simp [ItalicVariable.rule_eq hd]
  simp only [check, List.filter_append, none]
  rfl

theorem pass_variables (allows : AllowList) (dictionary : Dictionary) (settings : Settings)
    (text : String) :
    let chars  := text.toList
    let places := places settings chars
    (pass allows dictionary settings text).diagnostics.filter (·.rule == "italic_variable")
        = (if allows.exempts text then [] else places.map (remark chars)) ∧
      (∀ i, i ∈ places ↔ isCandidate settings chars i ∧ ∀ j ∈ places, j + 2 ≠ i) ∧
      places.Pairwise (· + 3 ≤ ·) := by
  intro chars places
  refine ⟨filter_variable_pass allows dictionary settings text, fun i => ?_,
    places_apart settings chars⟩
  simpa only [places, mem_places_iff] using isReported_iff

example : places {} "とaとbとcと".toList = [1, 5] := by
  decide +kernel

theorem pass_widened (allows : AllowList) (dictionary : Dictionary) (settings : Settings)
    (text : String) :
    let found (punctuation : Bool) :=
      (pass allows dictionary { settings with punctuation } text).diagnostics
    let letters (punctuation : Bool) :=
      ((found punctuation).filter (·.rule == "italic_variable")).map (·.start)
    (∀ i ∈ letters false, i ∈ letters true ∨ i - 2 ∈ letters true) ∧
      (letters false).length ≤ (letters true).length ∧
      (found false).filter (·.rule != "italic_variable")
        = (found true).filter (·.rule != "italic_variable") := by
  intro found letters
  have located (punctuation : Bool) : letters punctuation
      = if allows.exempts text then [] else
          (places { settings with punctuation } text.toList).map Int.ofNat := by
    simp only [letters, found, filter_variable_pass]
    split
    case isTrue  => rfl
    case isFalse => simp [remark]
  let narrow : Settings := { settings with punctuation := false }
  refine ⟨fun i hi => ?places, ?counts, ?others⟩
  case places =>
    rw [located] at hi ⊢
    split at hi
    case isTrue => cases hi
    case isFalse exempt =>
      obtain ⟨place, hp, rfl⟩ := List.mem_map.mp hi
      rw [if_neg exempt]
      obtain hw | ⟨q, hq, rfl⟩ := mem_places_widened narrow text.toList hp
      · exact .inl (List.mem_map_of_mem hw)
      · exact .inr (List.mem_map.mpr ⟨q, hq, by simp⟩)
  case counts =>
    rw [located, located]
    split
    case isTrue  => exact Nat.le_refl _
    case isFalse =>
      rw [List.length_map, List.length_map]
      exact length_places_widened narrow text.toList
  case others =>
    simp only [found, diagnostics_pass, apply_ite (List.filter _)]
    exact congrArg _ (filter_other_check dictionary narrow text)

-- The letter behind the comma takes the neighbour of the next one.
example :
    let text := "、aあbあ".toList
    places {} text = [3] ∧ places { punctuation := true } text = [1] := by
  decide +kernel

end Segment

end Proofread
