import Proofread.Proofs.Pattern.Ways

namespace Proofread

namespace Ways

def Respects (w : Ways) (r : Progress → Progress → Prop) : Prop :=
  ∀ s, ∀ s' ∈ w s, r s s'

namespace Respects

variable {w : Ways} {r : Progress → Progress → Prop}

theorem times (h : w.Respects r) (refl : ∀ s, r s s) (trans : ∀ {a b c}, r a b → r b c → r a c)
    (n : Nat) : (w.times n).Respects r := by
  induction n <;> intro s s' hs
  case zero => exact List.mem_singleton.mp hs ▸ refl s
  case succ n ih =>
    have ⟨t, ht, hs⟩ := List.mem_flatMap.mp hs
    exact trans (h s t ht) (ih t s' hs)

theorem arrange {isLazy : Bool} {s s' : Progress} {further : List Progress}
    (hs : s' ∈ Ways.arrange isLazy s further) : s' = s ∨ s' ∈ further := by
  cases isLazy <;> simp [Ways.arrange] at hs
  case false => exact hs.symm
  case true  => exact hs

theorem iterate (h : w.Respects r) (refl : ∀ s, r s s) (trans : ∀ {a b c}, r a b → r b c → r a c)
    (isLazy : Bool) :
    (fuel : Nat) → (most : Option Nat) → (w.iterate isLazy fuel most).Respects r
  | _, some 0, s, _, hs | 0, none, s, _, hs | 0, some (_ + 1), s, _, hs => by
    simp only [Ways.iterate, List.mem_singleton] at hs
    exact hs ▸ refl s
  | fuel + 1, none, s, s', hs | fuel + 1, some (_ + 1), s, s', hs => by
    simp only [Ways.iterate] at hs
    cases arrange hs
    case inl hs => exact hs ▸ refl s
    case inr hs =>
      obtain ⟨t, ht, hs⟩ := List.mem_flatMap.mp hs
      split at hs
      · exact List.mem_singleton.mp hs ▸ h s t ht
      · exact trans (h s t ht) (iterate h refl trans isLazy fuel _ t s' hs)

theorem repeated (h : w.Respects r) (refl : ∀ s, r s s) (trans : ∀ {a b c}, r a b → r b c → r a c)
    {isLazy : Bool} {least fuel : Nat} {more : Option Nat} {s s' : Progress}
    (hs : s' ∈ (w.times least s).flatMap (w.iterate isLazy fuel more)) : r s s' := by
  obtain ⟨t, ht, hs⟩ := List.mem_flatMap.mp hs
  exact trans (h.times refl trans _ s t ht) (h.iterate refl trans _ _ _ t s' hs)

theorem possessive (h : w.Respects r) (refl : ∀ s, r s s)
    (trans : ∀ {a b c}, r a b → r b c → r a c) :
    (fuel : Nat) → (most : Option Nat) → (s : Progress) → r s (w.possessive fuel most s)
  | _, some 0, s | 0, none, s | 0, some (_ + 1), s => by
    simp only [Ways.possessive]
    exact refl s
  | fuel + 1, none, s | fuel + 1, some (_ + 1), s => by
    simp only [Ways.possessive]
    cases ht : (w s).head?
    case none => exact refl s
    case some t =>
      have ht := h s t (List.mem_of_mem_head? ht)
      dsimp only
      split
      · exact ht
      · exact trans ht (possessive h refl trans fuel _ t)

theorem timesFirst? (h : w.Respects r) (refl : ∀ s, r s s)
    (trans : ∀ {a b c}, r a b → r b c → r a c) {n : Nat} {s s' : Progress}
    (hs : w.timesFirst? n s = some s') : r s s' := by
  induction n generalizing s
  case zero => exact Option.some.inj hs ▸ refl s
  case succ n ih =>
    have ⟨t, ht, hs⟩ := Option.bind_eq_some_iff.mp hs
    exact trans (h s t (List.mem_of_mem_head? ht)) (ih hs)

end Respects
end Ways

namespace Progress

structure Within (size : Nat) (s : Progress) : Prop where
  pos_le   : s.pos ≤ size
  group_le : ∀ group ∈ s.groups, group.2.stop ≤ size

theorem Within.setGroup {size : Nat} {s : Progress} (h : s.Within size) {span : Span}
    (hspan : span.stop ≤ size) (index : Nat) : (s.setGroup index span).Within size where
  pos_le := h.pos_le
  group_le group hg := by
    cases List.mem_cons.mp hg
    case inl hg => exact hg ▸ hspan
    case inr hg => exact h.group_le group (List.mem_filter.mp hg).left

-- What a way can do to the place of a match. It leads never back and never past the end of the text,
-- and neither do the groups that it sets.
structure Reaches (size : Nat) (s s' : Progress) : Prop where
  advances : s.pos ≤ s'.pos
  within   : s.Within size → s'.Within size

namespace Reaches

variable {size : Nat} {s s' s'' : Progress}

theorem refl (s : Progress) : Reaches size s s :=
  ⟨Nat.le_refl _, id⟩

theorem trans (h : Reaches size s s') (h' : Reaches size s' s'') : Reaches size s s'' :=
  ⟨Nat.le_trans h.advances h'.advances, h'.within ∘ h.within⟩

end Reaches
end Progress

namespace Pattern

open Progress

variable {text : Array Char}

theorem repeats_le_size {pos : Nat} {fold : Fold} {span : Span} (h : repeats text pos fold span)
    (hp : pos ≤ text.size) : pos + (span.stop - span.start) ≤ text.size := by
  cases hn : span.stop - span.start
  case zero => exact hp
  case succ n =>
    have := List.all_eq_true.mp h n (by simp [hn])
    split at this <;> simp at this
    have := (Array.getElem?_eq_some_iff.mp ‹text[pos + n]? = _›).1
    omega

theorem Look.origin?_le {side : Look} {pos origin : Nat} (h : side.origin? pos = some origin) :
    origin ≤ pos := by
  cases side <;> simp [Look.origin?] at h <;> omega

theorem ways_reach (p : Pattern) : (p.ways text).Respects (Reaches text.size) := by
  induction p <;> intro s s' hs <;> simp only [ways] at hs
  case empty => exact List.mem_singleton.mp hs ▸ .refl _
  case char set =>
    split at hs <;> try split at hs
    all_goals simp at hs
    case isTrue hc _ =>
      have := (Array.getElem?_eq_some_iff.mp hc).1
      subst hs
      exact ⟨Nat.le_succ _, fun h => ⟨this, h.group_le⟩⟩
  case seq p q hp hq =>
    obtain ⟨t, ht, hs⟩ := List.mem_flatMap.mp hs
    exact (hp s t ht).trans (hq t s' hs)
  case alt p q hp hq =>
    cases List.mem_append.mp hs
    case inl hs => exact hp s s' hs
    case inr hs => exact hq s s' hs
  case repeated greed least most p hp =>
    cases greed
    case greedy | lazy => exact hp.repeated .refl .trans hs
    case possessive =>
      obtain ⟨t, ht, hs⟩ := List.mem_map.mp hs
      have := hp.timesFirst? .refl .trans (Option.mem_toList.mp ht)
      exact hs ▸ this.trans (hp.possessive .refl .trans _ _ t)
  case group index p hp =>
    obtain ⟨t, ht, hs⟩ := List.mem_map.mp hs
    have := hp s t ht
    exact hs ▸ ⟨this.advances, fun h => (this.within h).setGroup (this.within h).pos_le index⟩
  case atomic p hp => exact hp s s' (List.mem_of_mem_head? (Option.mem_toList.mp hs))
  case look side negated p hp =>
    generalize hf : (side.origin? s.pos).bind _ = found at hs
    cases negated <;> cases found <;> simp at hs
    case true.none  => exact hs ▸ .refl _
    case false.some t =>
      obtain ⟨origin, ho, ht⟩ := Option.bind_eq_some_iff.mp hf
      have := hp _ t (List.mem_of_mem_head? ht)
      subst hs
      -- A look leaves the place as it is, so only the groups that it sets are of account.
      refine ⟨Nat.le_refl _, fun h => ⟨h.pos_le, (this.within ⟨?_, h.group_le⟩).group_le⟩⟩
      exact Nat.le_trans (Look.origin?_le ho) h.pos_le
  case same index fold =>
    split at hs <;> try split at hs
    all_goals simp at hs
    case isTrue hr =>
      subst hs
      exact ⟨Nat.le_add_right _ _, fun h => ⟨repeats_le_size hr h.pos_le, h.group_le⟩⟩
  case ifGroup index p q hp hq =>
    split at hs
    · exact hp s s' hs
    · exact hq s s' hs
  case anchor place =>
    split at hs <;> simp at hs
    exact hs ▸ .refl _

end Pattern
end Proofread
