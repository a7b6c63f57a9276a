import Proofread.Proofs.Pattern.Scan

namespace Proofread

def Span.shift (n : Nat) (span : Span) : Span :=
  ⟨n + span.start, n + span.stop⟩

def shiftGroups (n : Nat) (groups : List (Nat × Span)) : List (Nat × Span) :=
  groups.map fun group => (group.1, group.2.shift n)

def Progress.shift (n : Nat) (s : Progress) : Progress :=
  ⟨n + s.pos, shiftGroups n s.groups⟩

def Finding.shift (n : Nat) (finding : Finding) : Finding :=
  ⟨finding.span.shift n, shiftGroups n finding.groups⟩

theorem lookup_shiftGroups (n index : Nat) (groups : List (Nat × Span)) :
    (shiftGroups n groups).lookup index = (groups.lookup index).map (·.shift n) := by
  induction groups
  case nil => rfl
  case cons group groups ih =>
    have ⟨i, span⟩ := group
    simp only [shiftGroups, List.map_cons, List.lookup_cons] at ih ⊢
    cases index == i <;> simp [ih]

namespace Progress

variable (n : Nat) (s : Progress)

theorem shift_pos_eq_iff (s' : Progress) : (s'.shift n).pos = (s.shift n).pos ↔ s'.pos = s.pos :=
  Nat.add_left_cancel_iff

theorem group?_shift (index : Nat) : (s.shift n).group? index = (s.group? index).map (·.shift n) :=
  lookup_shiftGroups n index s.groups

theorem shift_setGroup (index : Nat) (span : Span) :
    (s.setGroup index span).shift n = (s.shift n).setGroup index (span.shift n) := by
  simp [setGroup, shift, shiftGroups, List.filter_map, Function.comp_def]

end Progress

namespace Ways

-- The ways `w'` are the ways `w`, all moved by `n`, as long as the text for `w` reaches.
def Moved (size n : Nat) (w w' : Ways) : Prop :=
  ∀ s : Progress, s.Within size → w' (s.shift n) = (w s).map (·.shift n)

namespace Moved

open Progress

variable {size n : Nat} {w w' : Ways}

theorem flatMap {s : Progress} {f f' : Ways} (h : w' (s.shift n) = (w s).map (·.shift n))
    (hf : ∀ t ∈ w s, f' (t.shift n) = (f t).map (·.shift n)) :
    (w' (s.shift n)).flatMap f' = ((w s).flatMap f).map (·.shift n) := by
  rw [h, List.flatMap_map, List.map_flatMap]
  exact congrArg List.flatten (List.map_congr_left hf)

theorem times (h : Moved size n w w') (reach : w.Respects (Reaches size)) (k : Nat) :
    Moved size n (w.times k) (w'.times k) := by
  induction k <;> intro s hs
  case zero => rfl
  case succ k ih => exact flatMap (h s hs) fun t ht => ih t ((reach s t ht).within hs)

theorem timesFirst? (h : Moved size n w w') (reach : w.Respects (Reaches size)) (k : Nat)
    {s : Progress} (hs : s.Within size) :
    w'.timesFirst? k (s.shift n) = (w.timesFirst? k s).map (·.shift n) := by
  induction k generalizing s
  case zero => rfl
  case succ k ih =>
    rw [Ways.timesFirst?, Ways.timesFirst?, h s hs, List.head?_map]
    cases ht : (w s).head?
    case none   => rfl
    case some t => exact ih ((reach s t (List.mem_of_mem_head? ht)).within hs)

theorem arrange (isLazy : Bool) (s : Progress) (further : List Progress) :
    Ways.arrange isLazy (s.shift n) (further.map (·.shift n))
      = (Ways.arrange isLazy s further).map (·.shift n) := by
  cases isLazy <;> simp [Ways.arrange]

-- An iteration that takes something leaves less of the text, so no fuel runs out.
theorem iterate (h : Moved size n w w') (reach : w.Respects (Reaches size)) (isLazy : Bool) :
    (fuel fuel' : Nat) → (most : Option Nat) → (s : Progress) → s.Within size →
      size < s.pos + fuel → size < s.pos + fuel' →
      w'.iterate isLazy fuel' most (s.shift n)
        = (w.iterate isLazy fuel most s).map (·.shift n)
  | _, _, some 0, s, _, _, _ => by
    simp [Ways.iterate]
  | 0, _, _, s, hs, hf, _ | _, 0, _, s, hs, _, hf => by
    have := hs.pos_le
    omega
  | fuel + 1, fuel' + 1, none, s, hs, hf, hf'
  | fuel + 1, fuel' + 1, some (_ + 1), s, hs, hf, hf' => by
    simp only [Ways.iterate]
    rw [← arrange]
    congr 1
    refine flatMap (h s hs) fun t ht => ?_
    have step := reach s t ht
    by_cases hp : t.pos = s.pos
    case pos => simp [shift_pos_eq_iff, hp]
    case neg =>
      have := step.advances
      simp only [shift_pos_eq_iff, hp, if_false]
      exact iterate h reach isLazy fuel fuel' _ t (step.within hs) (by omega) (by omega)

theorem repeated (h : Moved size n w w') (reach : w.Respects (Reaches size)) (isLazy : Bool)
    {fuel fuel' : Nat} (hf : size < fuel) (hf' : size < fuel') (least : Nat) (more : Option Nat)
    {s : Progress} (hs : s.Within size) :
    (w'.times least (s.shift n)).flatMap (w'.iterate isLazy fuel' more)
      = ((w.times least s).flatMap (w.iterate isLazy fuel more)).map (·.shift n) := by
  refine flatMap (h.times reach least s hs) fun t ht => ?_
  have within := (reach.times .refl .trans least s t ht).within hs
  exact h.iterate reach isLazy _ _ more t within (by omega) (by omega)

theorem possessive (h : Moved size n w w') (reach : w.Respects (Reaches size)) :
    (fuel fuel' : Nat) → (most : Option Nat) → (s : Progress) → s.Within size →
      size < s.pos + fuel → size < s.pos + fuel' →
      w'.possessive fuel' most (s.shift n) = (w.possessive fuel most s).shift n
  | _, _, some 0, s, _, _, _ => by
    simp [Ways.possessive]
  | 0, _, _, s, hs, hf, _ | _, 0, _, s, hs, _, hf => by
    have := hs.pos_le
    omega
  | fuel + 1, fuel' + 1, none, s, hs, hf, hf'
  | fuel + 1, fuel' + 1, some (_ + 1), s, hs, hf, hf' => by
    simp only [Ways.possessive]
    rw [h s hs, List.head?_map]
    cases ht : (w s).head?
    case none => rfl
    case some t =>
      have step := reach s t (List.mem_of_mem_head? ht)
      by_cases hp : t.pos = s.pos
      case pos => simp [shift_pos_eq_iff, hp]
      case neg =>
        have := step.advances
        simp only [Option.map_some, shift_pos_eq_iff, hp, if_false]
        exact possessive h reach fuel fuel' _ t (step.within hs) (by omega) (by omega)

end Moved
end Ways

namespace Pattern

-- The pattern takes only characters other than `c`, and looks at no others. A look, an anchor or a
-- reference sees what it does not take, and is left out.
def avoids (c : Char) : Pattern → Bool
  | empty => true
  | char set => !set.contains c
  | seq p q | alt p q | ifGroup _ p q => p.avoids c && q.avoids c
  | repeated _ _ _ p | group _ p | atomic p => p.avoids c
  | look .. | same .. | anchor .. => false

-- The characters of `part` stand in `whole` from `start` on, and then `c` or nothing.
structure Piece (c : Char) (part whole : Array Char) (start : Nat) : Prop where
  fits   : start + part.size ≤ whole.size
  inside : ∀ pos < part.size, whole[start + pos]? = part[pos]?
  behind : ∀ d, whole[start + part.size]? = some d → d = c

variable {c : Char} {part whole : Array Char} {start : Nat}

theorem Piece.getElem?_cases (h : Piece c part whole start) {pos : Nat} (hpos : pos ≤ part.size) :
    whole[start + pos]? = part[pos]? ∨ (part[pos]? = none ∧ whole[start + pos]? = some c) := by
  by_cases hlt : pos < part.size
  case pos => exact .inl (h.inside pos hlt)
  case neg =>
    have last : pos = part.size := Nat.le_antisymm hpos (Nat.not_lt.mp hlt)
    have past := Array.getElem?_eq_none (Nat.not_lt.mp hlt)
    cases hd : whole[start + pos]?
    case none   => exact .inl past.symm
    case some d => exact .inr ⟨past, congrArg some (h.behind d (last ▸ hd))⟩

theorem Piece.ways_moved (h : Piece c part whole start) {p : Pattern} (hp : p.avoids c) :
    Ways.Moved part.size start (p.ways part) (p.ways whole) := by
  induction p <;> intro s hs <;> simp only [avoids, Bool.and_eq_true, Bool.not_eq_true'] at hp
  case empty => rfl
  case char set =>
    simp only [ways, Progress.shift]
    obtain same | ⟨past, next⟩ := h.getElem?_cases hs.pos_le
    · rw [same]
      cases part[s.pos]?
      case none   => rfl
      case some d =>
        dsimp only
        split <;> rfl
    -- At the end of the piece the whole text may go on, but only with a character that is not taken.
    · simp [past, next, hp]
  case seq p q ihp ihq =>
    exact Ways.Moved.flatMap (ihp hp.1 s hs) fun t ht => ihq hp.2 t ((p.ways_reach s t ht).within hs)
  case alt p q ihp ihq =>
    simp only [ways, ihp hp.1 s hs, ihq hp.2 s hs, List.map_append]
  case repeated greed least most p ih =>
    have moved := ih hp
    have reach : (p.ways part).Respects (Progress.Reaches part.size) := p.ways_reach
    -- The two texts differ in size, so the repetitions run with different fuel.
    have fits := h.fits
    cases greed
    case greedy => exact moved.repeated reach false (by omega) (by omega) least _ hs
    case lazy   => exact moved.repeated reach true (by omega) (by omega) least _ hs
    case possessive =>
      simp only [ways, moved.timesFirst? reach least hs]
      cases ht : (p.ways part).timesFirst? least s
      case none => rfl
      case some t =>
        have within := (reach.timesFirst? .refl .trans ht).within hs
        exact congrArg ([·]) (moved.possessive reach _ _ _ t within (by omega) (by omega))
  case group index p ih =>
    simp only [ways, ih hp s hs, List.map_map, Function.comp_def, Progress.shift_setGroup]
    rfl
  case atomic p ih =>
    simp only [ways, ih hp s hs, List.head?_map]
    cases (p.ways part s).head? <;> rfl
  case ifGroup index p q ihp ihq =>
    simp only [ways, Progress.group?_shift, Option.isSome_map]
    split
    · exact ihp hp.1 s hs
    · exact ihq hp.2 s hs
  all_goals cases hp

variable {p : Pattern} {pos : Nat}

theorem Piece.matchAt? (h : Piece c part whole start) (hp : p.avoids c) (hpos : pos ≤ part.size)
    {accept accept' : Nat → Bool} (ha : ∀ stop, accept' (start + stop) = accept stop) :
    p.matchAt? whole (start + pos) accept' = (p.matchAt? part pos accept).map (·.shift start) := by
  have moved := h.ways_moved hp ⟨pos, []⟩ ⟨hpos, by simp⟩
  rw [matchAt?_eq, matchAt?_eq, show (⟨start + pos, []⟩ : Progress) = .shift start ⟨pos, []⟩ from rfl,
    moved, List.find?_map, Option.map_map, Option.map_map]
  simp only [Function.comp_def, Progress.shift, ha]
  rfl

theorem Piece.matchesAt (h : Piece c part whole start) (hp : p.avoids c)
    (hpos : pos ≤ part.size) :
    p.matchesAt whole (start + pos) = (p.matchesAt part pos).map (·.shift start) := by
  simp only [Pattern.matchesAt]
  rw [h.matchAt? hp hpos fun _ => rfl]
  cases p.matchAt? part pos fun _ => true
  case none => rfl
  case some f =>
    have empty : (f.shift start).span.stop = start + pos ↔ f.span.stop = pos :=
      Nat.add_left_cancel_iff
    simp only [Option.map_some, empty]
    split
    case isFalse => rfl
    case isTrue =>
      have ha (stop : Nat) : (start + stop != start + pos) = (stop != pos) := by
        rw [Bool.eq_iff_iff]
        simp
      rw [h.matchAt? hp hpos ha]
      cases p.matchAt? part pos (· != pos) <;> rfl

theorem resume_shift (start pos : Nat) (found : List Finding) :
    resume (start + pos) (found.map (·.shift start)) = start + resume pos found := by
  simp only [resume, List.getLast?_map]
  cases found.getLast? <;> rfl

theorem resume_le_size (p : Pattern) {text : Array Char} (hp : pos ≤ text.size) :
    resume pos (p.matchesAt text pos) ≤ text.size := by
  simp only [resume]
  cases hl : (p.matchesAt text pos).getLast?
  case none => exact hp
  case some f => exact ((matchesAt_spec (List.mem_of_getLast? hl)).2.bounds hp).2

theorem findFrom_zero {text : Array Char} {next : Nat} : p.findFrom text 0 pos next = [] :=
  rfl

theorem findFrom_next {text : Array Char} {next : Nat} (h : next ≤ pos) (left : Nat) :
    p.findFrom text left pos next = p.findFrom text left pos pos := by
  cases left
  case zero => rfl
  case succ left => rw [findFrom_look h, findFrom_look (Nat.le_refl pos)]

theorem Piece.findFrom (h : Piece c part whole start) (hp : p.avoids c) (more : Nat)
    {left next : Nat} (hl : pos + left = part.size + 1) (hn : next ≤ part.size + 1) :
    p.findFrom whole (left + more) (start + pos) (start + next)
      = (p.findFrom part left pos next).map (·.shift start)
        ++ p.findFrom whole more (start + (part.size + 1)) (start + (part.size + 1)) := by
  induction left generalizing pos next
  case zero =>
    simp only [Pattern.findFrom, List.map_nil, List.nil_append, Nat.zero_add]
    rw [findFrom_next (by omega), ← hl, Nat.add_zero]
  case succ left ih =>
    rw [Nat.add_right_comm]
    by_cases hlt : pos < next
    case pos =>
      rw [findFrom_skip hlt, findFrom_skip (by omega), Nat.add_assoc start]
      exact ih (by omega) hn
    case neg =>
      have hlt := Nat.not_lt.mp hlt
      have inside : pos ≤ part.size := by omega
      have := p.resume_le_size inside
      rw [findFrom_look hlt, findFrom_look (by omega), h.matchesAt hp inside, resume_shift,
        Nat.add_assoc start, ih (by omega) (by omega), List.map_append, List.append_assoc]

end Pattern
end Proofread
