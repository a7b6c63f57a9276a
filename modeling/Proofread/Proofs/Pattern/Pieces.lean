import Proofread.Proofs.Pattern.Locality

namespace Proofread

theorem Pattern.Piece.slice_shift {c : Char} {part whole : Array Char} {start : Nat}
    (h : Piece c part whole start) {span : Span} (hs : span.stop ≤ part.size) :
    (span.shift start).slice whole = span.slice part := by
  have fits := h.fits
  apply List.ext_getElem?
  intro i
  simp only [Span.slice, Span.shift, Array.getElem?_toList, Array.getElem?_extract]
  by_cases hi : i < span.stop - span.start
  case pos =>
    rw [if_pos (by omega), if_pos (by omega), Nat.add_assoc]
    exact h.inside _ (by omega)
  case neg => rw [if_neg (by omega), if_neg (by omega)]

namespace Pattern

variable {p : Pattern} {text : Array Char} {c : Char}

theorem matchAt?_group_le {pos : Nat} {accept : Nat → Bool} {f : Finding} (hp : pos ≤ text.size)
    (h : p.matchAt? text pos accept = some f) : ∀ group ∈ f.groups, group.2.stop ≤ text.size := by
  rw [matchAt?_eq] at h
  have ⟨s, hs, hf⟩ := Option.map_eq_some_iff.mp h
  have reach := p.ways_reach _ s (List.mem_of_find?_eq_some hs)
  exact hf ▸ (reach.within ⟨hp, by simp⟩).group_le

theorem matchesAt_group_le {f : Finding} {pos : Nat} (hp : pos ≤ text.size)
    (h : f ∈ p.matchesAt text pos) : ∀ group ∈ f.groups, group.2.stop ≤ text.size := by
  simp only [matchesAt] at h
  split at h
  case h_1 => simp at h
  case h_2 e he =>
    split at h
    case isTrue =>
      cases List.mem_cons.mp h
      case inl h => exact matchAt?_group_le hp (h ▸ he)
      case inr h => exact matchAt?_group_le hp (Option.mem_toList.mp h)
    case isFalse => exact matchAt?_group_le hp (List.mem_singleton.mp h ▸ he)

theorem findAll_group_le {f : Finding} (h : f ∈ p.findAll text) {index : Nat} {span : Span}
    (hg : f.group? index = some span) : span.stop ≤ text.size := by
  have ⟨_, _, hlt, hm⟩ := findFrom_spec h
  have ⟨l₁, l₂, hl, _⟩ := List.lookup_eq_some_iff.mp hg
  exact matchesAt_group_le (by omega) hm (index, span) (by simp [hl])

theorem Piece.group_slice {part whole : Array Char} {start : Nat} (h : Piece c part whole start)
    {f : Finding} (hf : f ∈ p.findAll part) (index : Nat) :
    ((f.shift start).group? index).elim [] (·.slice whole)
      = (f.group? index).elim [] (·.slice part) := by
  rw [Finding.group?, Finding.shift, lookup_shiftGroups]
  cases hg : f.groups.lookup index
  case none      => simp [Finding.group?, hg]
  case some span => simpa [Finding.group?, hg] using h.slice_shift (findAll_group_le hf hg)

def taken (p : Pattern) (index : Nat) (text : List Char) : List (List Char) :=
  (p.findAll text.toArray).map fun finding => (finding.group? index).elim [] (·.slice text.toArray)

variable (a b : List Char)

theorem piece_left : Piece c a.toArray (a ++ c :: b).toArray 0 where
  fits       := by simp
  inside i h := by simp at h ⊢; rw [List.getElem?_append_left h]
  behind d h := by simpa using h.symm

theorem piece_right : Piece c b.toArray (a ++ c :: b).toArray (a.length + 1) where
  fits := by
    simp only [List.size_toArray, List.length_append, List.length_cons]
    omega
  inside i h := by
    rw [List.getElem?_toArray, List.getElem?_append_right (by omega),
      show a.length + 1 + i - a.length = i + 1 by omega, List.getElem?_cons_succ,
      List.getElem?_toArray]
  behind d h := by
    rw [Array.getElem?_eq_none] at h
    · cases h
    · simp only [List.size_toArray, List.length_append, List.length_cons]
      omega

theorem shift_zero (finding : Finding) : finding.shift 0 = finding := by
  simp [Finding.shift, Span.shift, shiftGroups]

-- The search goes through the first piece, and begins anew behind the character.
theorem findAll_append_cons (hp : p.avoids c) :
    p.findAll (a ++ c :: b).toArray
      = p.findAll a.toArray ++ (p.findAll b.toArray).map (·.shift (a.length + 1)) := by
  have left := (piece_left a b).findFrom hp (b.length + 1) (Nat.zero_add (a.length + 1))
    (Nat.zero_le _)
  have right := (piece_right a b).findFrom hp 0 (Nat.zero_add (b.length + 1)) (Nat.zero_le _)
  rw [Nat.zero_add, Nat.zero_add, funext shift_zero, List.map_id'] at left
  rw [findFrom_zero, List.append_nil] at right
  have size : (a ++ c :: b).toArray.size + 1 = a.length + 1 + (b.length + 1) := by
    simp only [List.size_toArray, List.length_append, List.length_cons]
    omega
  rw [findAll, size]
  exact left.trans (congrArg _ right)

theorem taken_append_cons (hp : p.avoids c) (index : Nat) :
    p.taken index (a ++ c :: b) = p.taken index a ++ p.taken index b := by
  rw [taken, findAll_append_cons a b hp, List.map_append, List.map_map, taken, taken]
  congr 1
  · refine List.map_congr_left fun f hf => ?_
    rw [← (piece_left a b).group_slice hf, shift_zero]
  · exact List.map_congr_left fun f hf => (piece_right a b).group_slice hf index

theorem taken_intercalate (hp : p.avoids c) (index : Nat) {pieces : List (List Char)}
    (hne : pieces ≠ []) :
    p.taken index ([c].intercalate pieces) = pieces.flatMap (p.taken index) := by
  induction pieces
  case nil => exact absurd rfl hne
  case cons piece pieces ih =>
    cases pieces
    case nil => simp
    case cons next pieces =>
      rw [List.intercalate_cons_cons, List.append_assoc, List.singleton_append,
        taken_append_cons _ _ hp, ih (List.cons_ne_nil _ _)]
      rfl

theorem taken_perm (hp : p.avoids c) (index : Nat) {text : List Char} {pieces : List (List Char)}
    (h : pieces.Perm (text.splitOn c)) :
    (p.taken index ([c].intercalate pieces)).Perm (p.taken index text) := by
  have split := List.splitOn_ne_nil c text
  have hne : pieces ≠ [] := fun hn => split (List.nil_perm.mp (hn ▸ h))
  have whole : p.taken index text = (text.splitOn c).flatMap (p.taken index) := by
    rw [← taken_intercalate hp index split, List.intercalate_splitOn]
  rw [whole, taken_intercalate hp index hne]
  exact h.flatMap_right _

theorem length_findAll_perm (hp : p.avoids c) {text : List Char} {pieces : List (List Char)}
    (h : pieces.Perm (text.splitOn c)) :
    (p.findAll ([c].intercalate pieces).toArray).length = (p.findAll text.toArray).length := by
  simpa [taken] using (taken_perm hp 0 h).length_eq

end Pattern
end Proofread
