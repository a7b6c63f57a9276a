import Proofread.Proofs.Pattern.Locality

namespace Proofread

namespace Ways

-- The ways `w` are those of the ways `w'` that stay in a text of this size.
def Cut (size : Nat) (w w' : Ways) : Prop :=
  ∀ s : Progress, s.pos ≤ size → w s = (w' s).filter (·.pos ≤ size)

namespace Cut

open Progress

variable {size bound : Nat} {w w' : Ways}

theorem flatMap {s : Progress} {f f' : Ways} (h : w s = (w' s).filter (·.pos ≤ size))
    (hf : ∀ t ∈ w' s, t.pos ≤ size → f t = (f' t).filter (·.pos ≤ size))
    (advances : ∀ t, ∀ t' ∈ f' t, t.pos ≤ t'.pos) :
    (w s).flatMap f = ((w' s).flatMap f').filter (·.pos ≤ size) := by
  rw [h]
  generalize w' s = reached at hf
  induction reached
  case nil => rfl
  case cons t reached ih =>
    have rest := ih fun u hu => hf u (List.mem_cons_of_mem _ hu)
    rw [List.flatMap_cons, List.filter_append, ← rest, List.filter_cons]
    by_cases ht : t.pos ≤ size
    case pos => simp [ht, hf t List.mem_cons_self ht]
    case neg =>
      have left : (f' t).filter (·.pos ≤ size) = [] :=
        List.filter_eq_nil_iff.mpr fun t' ht' => by
          have := advances t t' ht'
          simp
          omega
      simp [ht, left]

theorem times (h : Cut size w w') (reach : w'.Respects (Reaches bound)) (k : Nat) :
    Cut size (w.times k) (w'.times k) := by
  induction k <;> intro s hs
  case zero => simp [Ways.times, hs]
  case succ k ih =>
    exact flatMap (h s hs) (fun t _ ht => ih t ht) fun t t' ht' =>
      (reach.times .refl .trans k t t' ht').advances

theorem arrange (isLazy : Bool) {s : Progress} (hs : s.pos ≤ size) (further : List Progress) :
    (Ways.arrange isLazy s further).filter (·.pos ≤ size)
      = Ways.arrange isLazy s (further.filter (·.pos ≤ size)) := by
  cases isLazy <;> simp [Ways.arrange, hs]

-- An iteration that takes something leaves less of the shorter text, so no fuel runs out in it.
theorem iterate (h : Cut size w w') (reach : w'.Respects (Reaches bound)) (isLazy : Bool) :
    (fuel fuel' : Nat) → (most : Option Nat) → (s : Progress) → s.pos ≤ size →
      size < s.pos + fuel → size < s.pos + fuel' →
      w.iterate isLazy fuel most s = (w'.iterate isLazy fuel' most s).filter (·.pos ≤ size)
  | _, _, some 0, s, hs, _, _ => by
    simp [Ways.iterate, hs]
  | 0, _, _, s, hs, hf, _ | _, 0, _, s, hs, _, hf => by
    omega
  | fuel + 1, fuel' + 1, none, s, hs, hf, hf'
  | fuel + 1, fuel' + 1, some (_ + 1), s, hs, hf, hf' => by
    simp only [Ways.iterate]
    rw [arrange isLazy hs]
    congr 1
    refine flatMap (h s hs) (fun t hw ht => ?_) fun t t' ht' => ?_
    · by_cases hp : t.pos = s.pos
      case pos => simp [hp, hs]
      case neg =>
        have := (reach s t hw).advances
        simp only [hp, if_false]
        exact iterate h reach isLazy fuel fuel' _ t ht (by omega) (by omega)
    · split at ht'
      · exact List.mem_singleton.mp ht' ▸ Nat.le_refl _
      · exact (reach.iterate .refl .trans isLazy fuel' _ t t' ht').advances

theorem repeated (h : Cut size w w') (reach : w'.Respects (Reaches bound)) (isLazy : Bool)
    {fuel fuel' : Nat} (hf : size < fuel) (hf' : size < fuel') (least : Nat) (more : Option Nat)
    {s : Progress} (hs : s.pos ≤ size) :
    (w.times least s).flatMap (w.iterate isLazy fuel more)
      = ((w'.times least s).flatMap (w'.iterate isLazy fuel' more)).filter (·.pos ≤ size) := by
  refine flatMap (h.times reach least s hs) (fun t _ ht => ?_) fun t t' ht' => ?_
  · exact h.iterate reach isLazy _ _ more t ht (by omega) (by omega)
  · exact (reach.iterate .refl .trans isLazy fuel' more t t' ht').advances

end Cut
end Ways

namespace Pattern

-- The pattern looks at nothing but the characters that it takes, and gives up no way for another. In a
-- text that ends earlier, a possessive repetition or an atomic group may take a way that it gives up in
-- the longer one.
def isPlain : Pattern → Bool
  | empty | char _ => true
  | seq p q | alt p q | ifGroup _ p q => p.isPlain && q.isPlain
  | repeated greed _ _ p => greed != .possessive && p.isPlain
  | group _ p => p.isPlain
  | atomic _ | look .. | same .. | anchor _ => false

variable {p : Pattern} {part whole : Array Char}

theorem size_le_of_initial (h : part.toList <+: whole.toList) : part.size ≤ whole.size :=
  h.length_le

theorem getElem?_of_initial (h : part.toList <+: whole.toList) {pos : Nat} (hp : pos < part.size) :
    whole[pos]? = part[pos]? := by
  have ⟨rest, hr⟩ := h
  rw [← Array.getElem?_toList, ← hr, List.getElem?_append_left hp, Array.getElem?_toList]

theorem ways_cut (h : part.toList <+: whole.toList) (hp : p.isPlain) :
    Ways.Cut part.size (p.ways part) (p.ways whole) := by
  induction p <;> intro s hs <;> simp only [isPlain, Bool.and_eq_true, bne_iff_ne] at hp
  case empty => simp [ways, hs]
  case char set =>
    simp only [ways]
    by_cases hlt : s.pos < part.size
    case pos =>
      rw [getElem?_of_initial h hlt]
      cases part[s.pos]?
      case none   => rfl
      case some c =>
        by_cases hc : set.contains c <;> simp [hc, Nat.succ_le_of_lt hlt]
    case neg =>
      -- What the longer text has here lies behind the shorter one.
      have past : ¬s.pos + 1 ≤ part.size := by omega
      rw [Array.getElem?_eq_none (Nat.not_lt.mp hlt)]
      cases whole[s.pos]?
      case none   => rfl
      case some c =>
        by_cases hc : set.contains c <;> simp [hc, past]
  case seq p q ihp ihq =>
    exact Ways.Cut.flatMap (ihp hp.1 s hs) (fun t _ ht => ihq hp.2 t ht) fun t t' ht' =>
      (q.ways_reach t t' ht').advances
  case alt p q ihp ihq =>
    simp only [ways, ihp hp.1 s hs, ihq hp.2 s hs, List.filter_append]
  case repeated greed least most p ih =>
    have cut := ih hp.2
    have reach : (p.ways whole).Respects (Progress.Reaches whole.size) := p.ways_reach
    have size := size_le_of_initial h
    cases greed
    case greedy     => exact cut.repeated reach false (by omega) (by omega) least _ hs
    case lazy       => exact cut.repeated reach true (by omega) (by omega) least _ hs
    case possessive => exact absurd rfl hp.1
  case group index p ih =>
    simp only [ways, ih hp s hs, List.filter_map]
    rfl
  case ifGroup index p q ihp ihq =>
    simp only [ways]
    split
    · exact ihp hp.1 s hs
    · exact ihq hp.2 s hs
  all_goals cases hp

-- No match is empty, and none that begins at a place or later ends before the preferred one there. So
-- a search finds the same in a text that goes on, as long as it stays in the part that is known.
structure IsPrompt (p : Pattern) (text : Array Char) : Prop where
  takes : ∀ {start stop}, p.Matches text start stop → start < stop
  first : ∀ {pos f}, p.matchAt? text pos (fun _ => true) = some f →
    ∀ {start stop}, pos ≤ start → p.Matches text start stop → f.span.stop ≤ stop

variable {pos : Nat} {f : Finding}

theorem matchAt?_true (p : Pattern) (text : Array Char) (pos : Nat) :
    p.matchAt? text pos (fun _ => true)
      = (p.ways text ⟨pos, []⟩).head?.map fun s => ⟨⟨pos, s.pos⟩, s.groups⟩ := by
  rw [matchAt?_eq]
  cases p.ways text ⟨pos, []⟩ <;> rfl

theorem matchAt?_of_preferred {text : Array Char} {accept : Nat → Bool}
    (h : p.matchAt? text pos (fun _ => true) = some f) (ha : accept f.span.stop) :
    p.matchAt? text pos accept = some f := by
  rw [matchAt?_true] at h
  obtain ⟨s, hs, rfl⟩ := Option.map_eq_some_iff.mp h
  have ⟨others, hw⟩ := List.head?_eq_some_iff.mp hs
  simp [matchAt?_eq, hw, ha]

theorem matchAt?_cut (h : part.toList <+: whole.toList) (hp : p.isPlain) (hpos : pos ≤ part.size)
    (accept : Nat → Bool) :
    p.matchAt? part pos accept
      = p.matchAt? whole pos fun stop => decide (stop ≤ part.size) && accept stop := by
  rw [matchAt?_eq, matchAt?_eq, ways_cut h hp ⟨pos, []⟩ hpos, List.find?_filter]
  simp only [Bool.decide_and, Bool.decide_eq_true]

theorem matches_cut (h : part.toList <+: whole.toList) (hp : p.isPlain) (hpos : pos ≤ part.size)
    {stop : Nat} : p.Matches part pos stop ↔ stop ≤ part.size ∧ p.Matches whole pos stop := by
  simp only [Matches, ways_cut h hp ⟨pos, []⟩ hpos, List.mem_filter, decide_eq_true_eq]
  constructor
  · rintro ⟨s, ⟨hw, hs⟩, rfl⟩
    exact ⟨hs, s, hw, rfl⟩
  · rintro ⟨hs, s, hw, rfl⟩
    exact ⟨s, ⟨hw, hs⟩, rfl⟩

theorem findFrom_eq_nil {text : Array Char} {left next : Nat}
    (h : ∀ q, pos ≤ q → q < pos + left → p.matchesAt text q = []) :
    p.findFrom text left pos next = [] := by
  refine List.eq_nil_iff_forall_not_mem.mpr fun f hf => ?_
  have ⟨hs, _, hlt, hm⟩ := findFrom_spec hf
  rw [h _ hs hlt] at hm
  cases hm

namespace IsPrompt

theorem matchesAt_eq {text : Array Char} (prompt : p.IsPrompt text) (pos : Nat) :
    p.matchesAt text pos = (p.matchAt? text pos fun _ => true).toList := by
  simp only [Pattern.matchesAt]
  cases hf : p.matchAt? text pos fun _ => true
  case none => rfl
  case some f =>
    have := prompt.takes (matchAt?_eq_some hf).2.2
    simp [Nat.ne_of_gt this]

section

variable (prompt : p.IsPrompt whole) (h : part.toList <+: whole.toList) (hp : p.isPlain)
include prompt h hp

theorem matchesAt_cut (hpos : pos ≤ part.size)
    (fits : ∀ f ∈ p.matchesAt whole pos, f.span.stop ≤ part.size) :
    p.matchesAt part pos = p.matchesAt whole pos := by
  rw [prompt.matchesAt_eq] at fits ⊢
  simp only [Pattern.matchesAt, matchAt?_cut h hp hpos, Bool.and_true]
  cases hf : p.matchAt? whole pos fun _ => true
  case none =>
    cases hg : p.matchAt? whole pos fun stop => decide (stop ≤ part.size)
    case none   => rfl
    case some g => simpa using matchAt?_eq_none hf (matchAt?_eq_some hg).2.2
  case some f =>
    have := prompt.takes (matchAt?_eq_some hf).2.2
    rw [matchAt?_of_preferred hf (by simpa [hf] using fits)]
    simp [Nat.ne_of_gt this]

theorem matchesAt_eq_nil (hf : f ∈ p.matchesAt whole pos) (past : part.size < f.span.stop) {q : Nat}
    (hq : pos ≤ q) (hs : q ≤ part.size) : p.matchesAt part q = [] := by
  rw [prompt.matchesAt_eq, Option.mem_toList] at hf
  obtain ⟨hn, _⟩ | ⟨g, hn, _, hm⟩ | ⟨_, g, hn, _, hm, _⟩ := p.matchesAt_cases part q
  case inl => exact hn
  all_goals
    have ⟨fits, hm⟩ := (matches_cut h hp hs).mp hm
    have := prompt.first hf hq hm
    omega

theorem findFrom_mono (more : Nat) {left next : Nat} (hl : pos + left = part.size + 1) :
    p.findFrom part left pos next <+: p.findFrom whole (left + more) pos next := by
  induction left generalizing pos next
  case zero => exact List.nil_prefix
  case succ left ih =>
    rw [Nat.add_right_comm]
    by_cases hlt : pos < next
    case pos =>
      rw [findFrom_skip hlt, findFrom_skip hlt]
      exact ih (by omega)
    case neg =>
      have hlt := Nat.not_lt.mp hlt
      -- Once a match leaves the shorter text, nothing more is found in that.
      by_cases fits : ∀ f ∈ p.matchesAt whole pos, f.span.stop ≤ part.size
      case pos =>
        rw [findFrom_look hlt, findFrom_look hlt, prompt.matchesAt_cut h hp (by omega) fits]
        exact (List.prefix_append_right_inj _).mpr (ih (by omega))
      case neg =>
        obtain ⟨f, hf, past⟩ : ∃ f ∈ p.matchesAt whole pos, part.size < f.span.stop := by
          simpa using fits
        rw [findFrom_eq_nil]
        · exact List.nil_prefix
        · exact fun q hq hs => prompt.matchesAt_eq_nil h hp hf past hq (by omega)

theorem findAll_mono : p.findAll part <+: p.findAll whole := by
  have ⟨more, hm⟩ := Nat.exists_eq_add_of_le (size_le_of_initial h)
  have size : whole.size + 1 = part.size + 1 + more := by omega
  rw [findAll, findAll, size]
  exact prompt.findFrom_mono h hp more (Nat.zero_add _)

end

end IsPrompt
end Pattern
end Proofread
