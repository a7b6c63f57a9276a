import Proofread.Proofs.Pattern.Cut

namespace Proofread.Pattern

variable {c d : Char} {p q : Pattern} {ps : List Pattern} {text : Array Char}

theorem contains_range {first last : Char} :
    (CharSet.Item.range first.toNat last.toNat).contains .exact c.toNat ↔ first ≤ c ∧ c ≤ last := by
  simp [CharSet.Item.contains, Fold.variants, Char.le_def, UInt32.le_iff_toNat_le]

theorem contains_ofRanges {ranges : List (Char × Char)} :
    (CharSet.ofRanges ranges).contains c = false
      ↔ ∀ range ∈ ranges, ¬(range.1 ≤ c ∧ c ≤ range.2) := by
  simp only [CharSet.ofRanges, CharSet.contains, List.any_map, Bool.bne_false, List.any_eq_false,
    Function.comp_apply, contains_range]

theorem contains_point : (CharSet.Item.range d.toNat d.toNat).contains .exact c.toNat ↔ c = d := by
  rw [contains_range]
  constructor
  · exact fun ⟨below, above⟩ => Char.le_antisymm above below
  · rintro rfl
    exact ⟨Char.le_refl _, Char.le_refl _⟩

theorem contains_single : (CharSet.single d.toNat .exact).contains c ↔ c = d := by
  simp [CharSet.contains, CharSet.single, contains_point]

theorem ways_ofChar (s : Progress) :
    (ofChar c).ways text s = if text[s.pos]? = some c then [{ s with pos := s.pos + 1 }] else [] := by
  simp only [ofChar, ways]
  cases text[s.pos]?
  case none   => rfl
  case some d => simp [contains_single]

theorem ofChar_avoids (h : c ≠ d) : (ofChar d).avoids c := by
  simp only [ofChar, avoids, Bool.not_eq_true', Bool.eq_false_iff, ne_eq, contains_single, h,
    not_false_iff]

theorem ways_concat_cons (p : Pattern) (ps : List Pattern) (s : Progress) :
    (concat (p :: ps)).ways text s = (p.ways text s).flatMap ((concat ps).ways text) := by
  cases ps
  case nil => exact (List.flatMap_singleton' _).symm
  case cons => rfl

theorem ways_concat_append (ps qs : List Pattern) (s : Progress) :
    (concat (ps ++ qs)).ways text s = ((concat ps).ways text s).flatMap ((concat qs).ways text) := by
  induction ps generalizing s
  case nil => exact (List.flatMap_singleton _ _).symm
  case cons p ps ih =>
    rw [List.cons_append, ways_concat_cons, ways_concat_cons, List.flatMap_assoc]
    exact congrArg (List.flatMap · _) (funext ih)

theorem concat_of_forall {P : Pattern → Prop} (empty : P .empty)
    (seq : ∀ {p q}, P p → P q → P (.seq p q)) (h : ∀ p ∈ ps, P p) : P (concat ps) := by
  induction ps using concat.induct
  case case1 => exact empty
  case case2 p => exact h p List.mem_cons_self
  case case3 p ps hne ih =>
    rw [concat]
    · exact seq (h p List.mem_cons_self) (ih fun q hq => h q (List.mem_cons_of_mem _ hq))
    · exact hne

theorem concat_avoids (h : ∀ p ∈ ps, p.avoids c) : (concat ps).avoids c :=
  concat_of_forall (P := (·.avoids c)) rfl (fun hp hq => by simp [avoids, hp, hq]) h

theorem concat_isPlain (h : ∀ p ∈ ps, p.isPlain) : (concat ps).isPlain :=
  concat_of_forall (P := (·.isPlain)) rfl (fun hp hq => by simp [isPlain, hp, hq]) h

def Takes (p : Pattern) (n : Nat) : Prop :=
  ∀ text, (p.ways text).Respects fun s s' => s'.pos = s.pos + n

theorem char_takes (set : CharSet) : (char set).Takes 1 := by
  intro text s s' hs
  simp only [ways] at hs
  split at hs <;> try split at hs
  all_goals simp at hs
  case isTrue => exact hs ▸ rfl

theorem Takes.group {n : Nat} (h : p.Takes n) (index : Nat) : (group index p).Takes n := by
  intro text s s' hs
  have ⟨t, ht, hs⟩ := List.mem_map.mp hs
  exact hs ▸ h text s t ht

theorem concat_takes (h : ∀ p ∈ ps, p.Takes 1) : (concat ps).Takes ps.length := by
  induction ps
  case nil => exact fun text s s' hs => List.mem_singleton.mp hs ▸ rfl
  case cons p ps ih =>
    intro text s s' hs
    rw [ways_concat_cons] at hs
    have ⟨t, ht, hs⟩ := List.mem_flatMap.mp hs
    have first := h p List.mem_cons_self text s t ht
    have others := ih (fun q hq => h q (List.mem_cons_of_mem _ hq)) text t s' hs
    rw [others, first, List.length_cons, Nat.add_assoc, Nat.add_comm 1]

theorem Takes.stop_eq {n start stop : Nat} (h : p.Takes n) (hm : p.Matches text start stop) :
    stop = start + n := by
  have ⟨s, hs, he⟩ := hm
  exact he ▸ h text _ s hs

theorem Takes.isPrompt {n : Nat} (h : p.Takes n) (hn : 0 < n) : p.IsPrompt text where
  takes hm := by
    have := h.stop_eq hm
    omega
  first hf _ _ hle hm := by
    have := h.stop_eq hm
    have := h.stop_eq (matchAt?_eq_some hf).2.2
    omega

def starts (p : Pattern) (text : Array Char) : List Nat :=
  ((p.findAll text).map (·.span)).map (·.start)

namespace Takes

variable {n pos : Nat}

theorem stop_of_mem (h : p.Takes n) {span : Span} (hs : span ∈ (p.findAll text).map (·.span)) :
    span.stop = span.start + n :=
  h.stop_eq ((p.findAll_isScan text).matched span hs)

theorem starts_apart (h : p.Takes n) : (p.starts text).Pairwise (· + n ≤ ·) := by
  rw [starts, List.pairwise_map]
  refine (p.findAll_isScan text).ordered.imp_of_mem fun {a b} ha _ hab => ?_
  have := h.stop_of_mem ha
  omega

theorem matches_of_mem_starts (h : p.Takes n) (hm : pos ∈ p.starts text) :
    p.Matches text pos (pos + n) := by
  have ⟨span, hs, he⟩ := List.mem_map.mp hm
  have matched := (p.findAll_isScan text).matched span hs
  rwa [h.stop_of_mem hs, he] at matched

theorem mem_starts_iff (h : p.Takes n) (hp : pos ≤ text.size) :
    pos ∈ p.starts text ↔
      p.Matches text pos (pos + n) ∧ ∀ q ∈ p.starts text, q < pos → q + n ≤ pos := by
  constructor
  case mp =>
    refine fun hm => ⟨h.matches_of_mem_starts hm, fun q hq hlt => ?_⟩
    have apart : (p.starts text).Pairwise (· + n ≤ ·) := h.starts_apart
    rw [List.pairwise_iff_getElem] at apart
    obtain ⟨i, hi, rfl⟩ := List.getElem_of_mem hq
    obtain ⟨j, hj, rfl⟩ := List.getElem_of_mem hm
    obtain hij | rfl | hji := Nat.lt_trichotomy i j
    · exact apart i j hi hj hij
    · omega
    · have := apart j i hj hi hji
      omega
  case mpr =>
    rintro ⟨matched, free⟩
    -- The scan misses no match: it begins one of the spans, or else it lies inside one that is before it.
    obtain ⟨span, hs, rfl | ⟨before, into⟩⟩ := (p.findAll_isScan text).complete pos hp _ matched
    case inl => exact List.mem_map_of_mem hs
    case inr =>
      have := free span.start (List.mem_map_of_mem hs) before
      have := h.stop_of_mem hs
      omega

end Takes

theorem literal_avoids {phrase : String} (h : c ∉ phrase.toList) : (literal phrase).avoids c := by
  refine concat_avoids fun p hp => ?_
  have ⟨d, hd, he⟩ := List.mem_map.mp hp
  exact he ▸ ofChar_avoids fun hc => h (hc ▸ hd)

theorem literal_isPlain (phrase : String) : (literal phrase).isPlain := by
  refine concat_isPlain fun p hp => ?_
  have ⟨_, _, he⟩ := List.mem_map.mp hp
  exact he ▸ rfl

theorem literal_takes (phrase : String) : (literal phrase).Takes phrase.length := by
  have each (p) (hp : p ∈ phrase.toList.map ofChar) : p.Takes 1 := by
    have ⟨_, _, he⟩ := List.mem_map.mp hp
    exact he ▸ char_takes _
  have whole := concat_takes each
  rwa [List.length_map, String.length_toList] at whole

theorem prefix_drop_iff {rest : List Char} {pos : Nat} :
    c :: rest <+: text.toList.drop pos
      ↔ text[pos]? = some c ∧ rest <+: text.toList.drop (pos + 1) := by
  rw [← Array.getElem?_toList, ← List.head?_drop, ← List.drop_drop, List.drop_one]
  cases text.toList.drop pos <;> simp [eq_comm]

theorem ways_literal (phrase : String) (s : Progress) :
    (literal phrase).ways text s
      = if phrase.toList <+: text.toList.drop s.pos then [{ s with pos := s.pos + phrase.length }]
        else [] := by
  rw [literal, ← String.length_toList]
  generalize phrase.toList = chars
  induction chars generalizing s
  case nil => simp [concat, ways]
  case cons c rest ih =>
    rw [List.map_cons, ways_concat_cons, ways_ofChar]
    simp only [prefix_drop_iff]
    by_cases hc : text[s.pos]? = some c
    case pos => simp [hc, ih, Nat.add_assoc, Nat.add_comm 1]
    case neg => simp [hc]

end Proofread.Pattern
