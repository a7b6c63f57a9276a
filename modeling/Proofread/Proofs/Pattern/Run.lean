import Proofread.Proofs.Pattern.Phrase
import Proofread.Proofs.Text.Run

namespace Proofread.Pattern

open Text

variable {set : CharSet} {text : Array Char} {s : Progress}

theorem ways_char (set : CharSet) (s : Progress) :
    (char set).ways text s
      = if isAt set.contains text.toList s.pos then [{ s with pos := s.pos + 1 }] else [] := by
  simp only [ways, isAt, Array.getElem?_toList]
  cases text[s.pos]?
  case none   => rfl
  case some c => simp

theorem ways_ofChar_isAt (c : Char) (s : Progress) :
    (ofChar c).ways text s
      = if isAt (· == c) text.toList s.pos then [{ s with pos := s.pos + 1 }] else [] := by
  simp only [ways_ofChar, isAt_beq, Array.getElem?_toList]

theorem ways_many (p : Pattern) (s : Progress) :
    (many p).ways text s = (p.ways text).iterate false (text.size + 1) none s := by
  simp [many, ways, Ways.times]

theorem ways_many1 (p : Pattern) (s : Progress) :
    (many1 p).ways text s
      = (p.ways text s).flatMap ((p.ways text).iterate false (text.size + 1) none) := by
  simp [many1, ways, Ways.times]

theorem ways_optional (p : Pattern) (s : Progress) :
    (optional p).ways text s = p.ways text s ++ [s] := by
  simp [optional, ways, Ways.times, Ways.iterate, Ways.arrange]

theorem not_isAt_of_size_lt {pos : Nat} (h : text.size < pos) :
    isAt set.contains text.toList pos = false := by
  refine Bool.eq_false_iff.mpr fun hi => ?_
  have : pos < text.size := lt_length_of_isAt hi
  omega

theorem iterate_char_zero (set : CharSet) (isLazy : Bool) (s : Progress) :
    ((char set).ways text).iterate isLazy 0 none s = [s] := by
  simp [Ways.iterate]

theorem iterate_char_succ (set : CharSet) (isLazy : Bool) (fuel : Nat) (s : Progress) :
    ((char set).ways text).iterate isLazy (fuel + 1) none s
      = Ways.arrange isLazy s (if isAt set.contains text.toList s.pos then
          ((char set).ways text).iterate isLazy fuel none { s with pos := s.pos + 1 } else []) := by
  rw [Ways.iterate, ways_char]
  · split <;> simp
  · simp

-- One way comes first. Where another one ends, there is more to take, so a part that matches only where
-- nothing more is to take follows the first way.
def Prefers (more : Nat → Bool) (reached : List Progress) (first : Progress) : Prop :=
  ∃ others, reached = first :: others ∧ ∀ t ∈ others, more t.pos

namespace Prefers

variable {more more' : Nat → Bool} {reached : List Progress} {first first' : Progress} {k : Ways}

theorem head? (h : Prefers more reached first) : reached.head? = some first := by
  obtain ⟨others, rfl, _⟩ := h
  rfl

theorem map (h : Prefers more reached first) {f : Progress → Progress}
    (still : ∀ t, (f t).pos = t.pos) : Prefers more (reached.map f) (f first) := by
  obtain ⟨others, rfl, ho⟩ := h
  refine ⟨others.map f, rfl, fun u hu => ?_⟩
  have ⟨t, ht, he⟩ := List.mem_map.mp hu
  exact he ▸ still t ▸ ho t ht

-- What matches only where nothing more is to take follows the first way.
theorem flatMap_eq (h : Prefers more reached first) (stuck : ∀ t : Progress, more t.pos → k t = []) :
    reached.flatMap k = k first := by
  obtain ⟨others, rfl, ho⟩ := h
  have none : others.flatMap k = [] :=
    List.flatMap_eq_nil_iff.mpr fun t ht => stuck t (ho t ht)
  rw [List.flatMap_cons, none, List.append_nil]

theorem flatMap (h : Prefers more reached first) (next : Prefers more' (k first) first')
    (others : ∀ t : Progress, more t.pos → ∀ u ∈ k t, more' u.pos) :
    Prefers more' (reached.flatMap k) first' := by
  obtain ⟨rest, rfl, ho⟩ := h
  obtain ⟨rest', he, ho'⟩ := next
  refine ⟨rest' ++ rest.flatMap k, by rw [List.flatMap_cons, he, List.cons_append], fun u hu => ?_⟩
  cases List.mem_append.mp hu
  case inl hu => exact ho' u hu
  case inr hu =>
    have ⟨t, ht, hu⟩ := List.mem_flatMap.mp hu
    exact others t (ho t ht) u hu

end Prefers

theorem iterate_char_greedy (set : CharSet) {fuel : Nat} (h : text.size < s.pos + fuel) :
    Prefers (isAt set.contains text.toList) (((char set).ways text).iterate false fuel none s)
      { s with pos := runEnd set.contains text.toList s.pos } := by
  induction fuel generalizing s
  case zero =>
    have past : isAt set.contains text.toList s.pos = false := not_isAt_of_size_lt h
    rw [iterate_char_zero, runEnd_of_not past]
    exact ⟨[], rfl, by simp⟩
  case succ fuel ih =>
    rw [iterate_char_succ]
    by_cases hi : isAt set.contains text.toList s.pos
    case pos =>
      have fueled : text.size < s.pos + 1 + fuel := by omega
      have ⟨others, he, ho⟩ := @ih { s with pos := s.pos + 1 } fueled
      rw [if_pos hi, he, runEnd_of_isAt hi]
      refine ⟨others ++ [s], rfl, fun t ht => ?_⟩
      cases List.mem_append.mp ht
      case inl ht => exact ho t ht
      case inr ht => exact List.mem_singleton.mp ht ▸ hi
    case neg =>
      rw [if_neg hi, runEnd_of_not (Bool.eq_false_iff.mpr hi)]
      exact ⟨[], rfl, by simp⟩

theorem iterate_char_lazy (set : CharSet) {fuel : Nat} (h : text.size < s.pos + fuel) :
    ((char set).ways text).iterate true fuel none s
      = (List.range' s.pos (runEnd set.contains text.toList s.pos + 1 - s.pos)).map
          ({ s with pos := · }) := by
  induction fuel generalizing s
  case zero =>
    have past : isAt set.contains text.toList s.pos = false := not_isAt_of_size_lt h
    rw [iterate_char_zero, runEnd_of_not past, Nat.add_sub_cancel_left]
    rfl
  case succ fuel ih =>
    rw [iterate_char_succ]
    by_cases hi : isAt set.contains text.toList s.pos
    case pos =>
      have fueled : text.size < s.pos + 1 + fuel := by omega
      have behind : s.pos + 1 ≤ runEnd set.contains text.toList (s.pos + 1) := le_runEnd
      have more : runEnd set.contains text.toList (s.pos + 1) + 1 - s.pos
          = runEnd set.contains text.toList (s.pos + 1) + 1 - (s.pos + 1) + 1 := by omega
      rw [if_pos hi, @ih { s with pos := s.pos + 1 } fueled, runEnd_of_isAt hi, more]
      rfl
    case neg =>
      rw [if_neg hi, runEnd_of_not (Bool.eq_false_iff.mpr hi), Nat.add_sub_cancel_left]
      rfl

theorem many_char_prefers (set : CharSet) (s : Progress) :
    Prefers (isAt set.contains text.toList) ((many (char set)).ways text s)
      { s with pos := runEnd set.contains text.toList s.pos } := by
  rw [ways_many]
  exact iterate_char_greedy set (by omega)

theorem many1_char_prefers (h : isAt set.contains text.toList s.pos) :
    Prefers (isAt set.contains text.toList) ((many1 (char set)).ways text s)
      { s with pos := runEnd set.contains text.toList s.pos } := by
  rw [ways_many1, ways_char, if_pos h, List.flatMap_singleton, runEnd_of_isAt h]
  exact iterate_char_greedy set (show text.size < s.pos + 1 + (text.size + 1) by omega)

theorem ways_many1_char_of_not (h : isAt set.contains text.toList s.pos = false) :
    (many1 (char set)).ways text s = [] := by
  simp [ways_many1, ways_char, h]

end Proofread.Pattern
