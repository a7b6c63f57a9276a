import Proofread.Proofs.Pattern.Phrase

namespace Proofread

-- A lazy repetition goes on for want of a place to stop, so it goes no further than any such place.
theorem Ways.head_lazy_le {w k : Ways} {n : Nat} (step : w.Respects fun s t => t.pos = s.pos + 1)
    (takes : k.Respects fun s t => t.pos = s.pos + n) {place : Nat}
    (stops : ∀ s : Progress, s.pos = place → k s ≠ []) {fuel : Nat} {s e : Progress}
    (hs : s.pos ≤ place) (he : ((w.iterate true fuel none s).flatMap k).head? = some e) :
    e.pos ≤ place + n := by
  induction fuel generalizing s
  case zero =>
    simp only [iterate, List.flatMap_singleton] at he
    have := takes s e (List.mem_of_mem_head? he)
    omega
  case succ fuel ih =>
    simp only [iterate, arrange, List.flatMap_cons, List.head?_append] at he
    cases hk : (k s).head?
    case some t =>
      have := takes s t (List.mem_of_mem_head? hk)
      simp only [hk, Option.some_or, Option.some.injEq] at he
      subst he
      omega
    case none =>
      have before : s.pos ≠ place := fun hp => stops s hp (List.head?_eq_none_iff.mp hk)
      rw [hk, Option.none_or, List.flatMap_assoc, List.head?_flatMap] at he
      obtain ⟨t, ht, he⟩ := List.exists_of_findSome?_eq_some he
      have := step s t ht
      rw [if_neg (by omega)] at he
      exact ih (by omega) he

namespace Pattern

def delimited (opener closer : String) : Pattern :=
  concat [literal opener, group 1 lazyLine, literal closer]

variable {text : Array Char}

theorem delimited_isPlain (opener closer : String) : (delimited opener closer).isPlain := by
  simp [delimited, concat, isPlain, literal_isPlain, lazyLine]

theorem ways_delimited (opener closer : String) (s : Progress) :
    (delimited opener closer).ways text s
      = ((literal opener).ways text s).flatMap fun t =>
          (((char (.notSingle 0xA)).ways text).iterate true (text.size + 1) none t).flatMap fun u =>
            (literal closer).ways text (u.setGroup 1 ⟨t.pos, u.pos⟩) := by
  simp [delimited, concat, ways, lazyLine, Ways.times, List.flatMap_map]

theorem matches_delimited {opener closer : String} {start stop : Nat}
    (h : (delimited opener closer).Matches text start stop) :
    ∃ place, start + opener.length ≤ place ∧ stop = place + closer.length ∧
      closer.toList <+: text.toList.drop place := by
  have ⟨s, hs, he⟩ := h
  rw [ways_delimited] at hs
  have ⟨t, ht, hs⟩ := List.mem_flatMap.mp hs
  have ⟨u, hu, hs⟩ := List.mem_flatMap.mp hs
  have opened := literal_takes opener text _ t ht
  have advances := (((char _).ways_reach).iterate .refl .trans true _ none t u hu).advances
  rw [ways_literal] at hs
  split at hs
  case isFalse => cases hs
  case isTrue stands =>
    have := List.mem_singleton.mp hs
    subst this
    exact ⟨u.pos, opened ▸ advances, he.symm, stands⟩

theorem delimited_isPrompt {opener : String} (h : 0 < opener.length) (closer : String) :
    (delimited opener closer).IsPrompt text where
  takes hm := by
    have ⟨place, _, _, _⟩ := matches_delimited hm
    omega
  first hf _ stop hle hm := by
    have ⟨place, behind, hs, stands⟩ := matches_delimited hm
    rw [matchAt?_true] at hf
    obtain ⟨e, he, rfl⟩ := Option.map_eq_some_iff.mp hf
    rw [ways_delimited, List.head?_flatMap] at he
    have ⟨t, ht, he⟩ := List.exists_of_findSome?_eq_some he
    have opened := literal_takes opener text _ t ht
    dsimp only at opened
    subst hs
    refine Ways.head_lazy_le (char_takes _ text) (fun u _ hs => ?_) (fun u hu => ?_) ?_ he
    · exact literal_takes closer text (u.setGroup 1 ⟨t.pos, u.pos⟩) _ hs
    · rw [ways_literal]
      exact if_pos (hu ▸ stands) ▸ List.cons_ne_nil _ _
    · omega

end Pattern
end Proofread
