import Proofread.Proofs.Pattern.Reach

namespace Proofread.Pattern

-- Where the pattern stands in a text, without overlap. Every place where it matches begins one of
-- the spans or lies inside one. `Matches` is what the engine finds if it may only stop there, as is
-- shown in `matches_iff_matchAt?`.
structure IsScan (p : Pattern) (text : Array Char) (spans : List Span) : Prop where
  bounded  : ∀ span ∈ spans, span.start ≤ span.stop ∧ span.stop ≤ text.size
  matched  : ∀ span ∈ spans, p.Matches text span.start span.stop
  ordered  : spans.Pairwise fun a b => a.stop ≤ b.start ∧ a ≠ b
  complete : ∀ pos ≤ text.size, ∀ stop, p.Matches text pos stop →
    ∃ span ∈ spans, span.start = pos ∨ (span.start < pos ∧ pos < span.stop)
  few      : spans.length ≤ 2 * text.size + 1

variable {p : Pattern} {text : Array Char} {pos : Nat}

theorem Matches.bounds {start stop : Nat} (h : p.Matches text start stop)
    (hs : start ≤ text.size) : start ≤ stop ∧ stop ≤ text.size := by
  have ⟨s, hw, he⟩ := h
  have reach := p.ways_reach _ s hw
  subst he
  exact ⟨reach.advances, (reach.within ⟨hs, by simp⟩).pos_le⟩

theorem matchAt?_eq_none {accept : Nat → Bool} (h : p.matchAt? text pos accept = none) {stop : Nat}
    (hm : p.Matches text pos stop) : accept stop = false := by
  have ⟨s, hw, he⟩ := hm
  simp [matchAt?_eq] at h
  exact he ▸ h s hw

theorem matchAt?_eq_some {accept : Nat → Bool} {f : Finding}
    (h : p.matchAt? text pos accept = some f) :
    f.span.start = pos ∧ accept f.span.stop ∧ p.Matches text pos f.span.stop := by
  rw [matchAt?_eq] at h
  have ⟨s, hs, hf⟩ := Option.map_eq_some_iff.mp h
  subst hf
  exact ⟨rfl, by simpa using List.find?_some hs, s, List.mem_of_find?_eq_some hs, rfl⟩

theorem matchesAt_cases (p : Pattern) (text : Array Char) (pos : Nat) :
    (p.matchesAt text pos = [] ∧ ∀ stop, ¬p.Matches text pos stop) ∨
    (∃ f, p.matchesAt text pos = [f] ∧ f.span.start = pos ∧ p.Matches text pos f.span.stop) ∨
    (∃ e f, p.matchesAt text pos = [e, f] ∧ e.span = ⟨pos, pos⟩ ∧ p.Matches text pos pos ∧
      f.span.start = pos ∧ f.span.stop ≠ pos ∧ p.Matches text pos f.span.stop) := by
  simp only [matchesAt]
  cases he : p.matchAt? text pos fun _ => true
  case none =>
    exact .inl ⟨rfl, fun _ hm => by simpa using matchAt?_eq_none he hm⟩
  case some e =>
    have ⟨hs, _, hm⟩ := matchAt?_eq_some he
    by_cases hempty : e.span.stop = pos
    case neg => exact .inr <| .inl ⟨e, by simp [hempty], hs, hm⟩
    case pos =>
      cases hf : p.matchAt? text pos (· != pos)
      case none => exact .inr <| .inl ⟨e, by simp [hempty], hs, hm⟩
      case some f =>
        have ⟨hs', ha, hm'⟩ := matchAt?_eq_some hf
        have hspan : e.span = ⟨pos, pos⟩ := congr (congrArg Span.mk hs) hempty
        exact .inr <| .inr ⟨e, f, by simp [hempty], hspan, hempty ▸ hm, hs', by simpa using ha, hm'⟩

theorem matchesAt_spec {f : Finding} (h : f ∈ p.matchesAt text pos) :
    f.span.start = pos ∧ p.Matches text pos f.span.stop := by
  obtain ⟨hn, _⟩ | ⟨e, hn, hs, hm⟩ | ⟨e, g, hn, he, hm, hs, _, hm'⟩ := matchesAt_cases p text pos
    <;> simp [hn] at h
  case inr.inl => exact h ▸ ⟨hs, hm⟩
  case inr.inr =>
    cases h
    case inl h => exact h ▸ by simpa [he] using hm
    case inr h => exact h ▸ ⟨hs, hm'⟩

theorem matchesAt_ne_nil {stop : Nat} (h : p.Matches text pos stop) : p.matchesAt text pos ≠ [] := by
  obtain ⟨_, hno⟩ | ⟨f, hn, _⟩ | ⟨e, f, hn, _⟩ := matchesAt_cases p text pos
  case inl => exact absurd h (hno stop)
  all_goals simp [hn]

theorem matchesAt_pairwise (p : Pattern) (text : Array Char) (pos : Nat) :
    ((p.matchesAt text pos).map (·.span)).Pairwise fun a b => a.stop ≤ b.start ∧ a ≠ b := by
  obtain ⟨hn, _⟩ | ⟨f, hn, _⟩ | ⟨e, f, hn, he, _, hs, hne, _⟩ := matchesAt_cases p text pos
    <;> simp [hn]
  rw [he]
  exact ⟨Nat.le_of_eq hs.symm, fun h => hne (h ▸ rfl)⟩

theorem stop_le_resume {f : Finding} (hp : pos ≤ text.size) (h : f ∈ p.matchesAt text pos) :
    f.span.stop ≤ resume pos (p.matchesAt text pos) := by
  obtain ⟨hn, _⟩ | ⟨e, hn, _⟩ | ⟨e, g, hn, he, _, _, _, hm⟩ := matchesAt_cases p text pos
    <;> simp [hn] at h <;> simp [hn, resume]
  case inr.inl => simp [h]
  case inr.inr =>
    cases h
    case inl h => simpa [h, he] using (hm.bounds hp).1
    case inr h => simp [h]

theorem exists_of_lt_resume {q : Nat} (hq : pos < q) (h : q < resume pos (p.matchesAt text pos)) :
    ∃ f ∈ p.matchesAt text pos, f.span.start < q ∧ q < f.span.stop := by
  simp only [resume] at h
  cases hl : (p.matchesAt text pos).getLast?
  case none => simp [hl] at h; omega
  case some f =>
    have hf := List.mem_of_getLast? hl
    simp [hl] at h
    exact ⟨f, hf, (matchesAt_spec hf).1 ▸ hq, h⟩

theorem length_matchesAt_le (p : Pattern) {text : Array Char} {pos : Nat} (hp : pos ≤ text.size) :
    (p.matchesAt text pos).length ≤ if pos < text.size then 2 else 1 := by
  obtain ⟨hn, _⟩ | ⟨f, hn, _⟩ | ⟨e, f, hn, _, _, _, hne, hm⟩ := matchesAt_cases p text pos
    <;> simp [hn] <;> split <;> try omega
  have := hm.bounds hp
  omega

variable {left next : Nat}

theorem findFrom_skip (h : pos < next) :
    p.findFrom text (left + 1) pos next = p.findFrom text left (pos + 1) next := by
  simp [findFrom, h]

theorem findFrom_look (h : next ≤ pos) :
    p.findFrom text (left + 1) pos next = p.matchesAt text pos
      ++ p.findFrom text left (pos + 1) (resume pos (p.matchesAt text pos)) := by
  simp [findFrom, Nat.not_lt.mpr h]

theorem findFrom_spec {f : Finding} (h : f ∈ p.findFrom text left pos next) :
    pos ≤ f.span.start ∧ next ≤ f.span.start ∧ f.span.start < pos + left ∧
      f ∈ p.matchesAt text f.span.start := by
  induction left generalizing pos next
  case zero => simp [findFrom] at h
  case succ left ih =>
    by_cases hp : pos < next
    case pos =>
      have ⟨hs, hn, hl, hm⟩ := ih (findFrom_skip hp ▸ h)
      exact ⟨by omega, hn, by omega, hm⟩
    case neg =>
      have hp := Nat.not_lt.mp hp
      cases List.mem_append.mp (findFrom_look hp ▸ h)
      case inl h =>
        have ⟨hs, _⟩ := matchesAt_spec h
        exact ⟨by omega, by omega, by omega, hs.symm ▸ h⟩
      case inr h =>
        have ⟨hs, hn, hl, hm⟩ := ih h
        exact ⟨by omega, by omega, by omega, hm⟩

theorem findFrom_pairwise (hp : pos + left = text.size + 1) :
    ((p.findFrom text left pos next).map (·.span)).Pairwise fun a b => a.stop ≤ b.start ∧ a ≠ b := by
  induction left generalizing pos next
  case zero => simp [findFrom]
  case succ left ih =>
    by_cases hn : pos < next
    case pos => exact findFrom_skip hn ▸ ih (by omega)
    case neg =>
      rw [findFrom_look (Nat.not_lt.mp hn), List.map_append, List.pairwise_append]
      -- The matches of this place end where the search goes on at the latest.
      refine ⟨matchesAt_pairwise p text pos, ih (by omega), fun a ha b hb => ?_⟩
      have ⟨f, hf, ha⟩ := List.mem_map.mp ha
      have ⟨g, hg, hb⟩ := List.mem_map.mp hb
      have ⟨hpos, hnext, _⟩ := findFrom_spec hg
      have := stop_le_resume (by omega) hf
      have := (matchesAt_spec hf).1
      subst ha hb
      exact ⟨by omega, fun h => by rw [h] at this; omega⟩

theorem findFrom_complete (hp : pos + left = text.size + 1) {q stop : Nat} (hq : pos ≤ q)
    (hn : next ≤ q) (hs : q ≤ text.size) (hm : p.Matches text q stop) :
    ∃ f ∈ p.findFrom text left pos next,
      f.span.start = q ∨ (f.span.start < q ∧ q < f.span.stop) := by
  induction left generalizing pos next
  case zero => omega
  case succ left ih =>
    by_cases hlt : pos < next
    case pos => exact findFrom_skip hlt ▸ ih (by omega) (by omega) hn
    case neg =>
      rw [findFrom_look (Nat.not_lt.mp hlt)]
      by_cases he : pos = q
      case pos =>
        subst he
        have ⟨f, hf⟩ := List.exists_mem_of_ne_nil _ (matchesAt_ne_nil hm)
        exact ⟨f, List.mem_append_left _ hf, .inl (matchesAt_spec hf).1⟩
      case neg =>
        -- A place that is skipped lies inside the last match; any other one is still to come.
        by_cases hr : q < resume pos (p.matchesAt text pos)
        case pos =>
          have ⟨f, hf, hin⟩ := exists_of_lt_resume (by omega) hr
          exact ⟨f, List.mem_append_left _ hf, .inr hin⟩
        case neg =>
          have next_place : pos + 1 + left = text.size + 1 := by omega
          have ⟨f, hf, hcov⟩ := ih next_place (by omega) (Nat.not_lt.mp hr)
          exact ⟨f, List.mem_append_right _ hf, hcov⟩

theorem length_findFrom_le (hp : pos + left = text.size + 1) :
    (p.findFrom text left pos next).length ≤ 2 * left - 1 := by
  induction left generalizing pos next
  case zero => simp [findFrom]
  case succ left ih =>
    by_cases hlt : pos < next
    case pos =>
      have : (p.findFrom text (left + 1) pos next).length ≤ 2 * left - 1 :=
        findFrom_skip hlt ▸ ih (by omega)
      omega
    case neg =>
      have at_end : pos ≤ text.size := by omega
      have hfound := p.length_matchesAt_le at_end
      have hrest : (p.findFrom text left (pos + 1) (resume pos (p.matchesAt text pos))).length
          ≤ 2 * left - 1 := ih (by omega)
      rw [findFrom_look (Nat.not_lt.mp hlt), List.length_append]
      split at hfound <;> omega

theorem findAll_isScan (p : Pattern) (text : Array Char) :
    p.IsScan text ((p.findAll text).map (·.span)) where
  bounded span h := by
    have ⟨f, hf, hspan⟩ := List.mem_map.mp h
    have ⟨_, _, _, hm⟩ := findFrom_spec hf
    exact hspan ▸ (matchesAt_spec hm).2.bounds (by omega)
  matched span h := by
    have ⟨f, hf, hspan⟩ := List.mem_map.mp h
    exact hspan ▸ (matchesAt_spec (findFrom_spec hf).2.2.2).2
  ordered := findFrom_pairwise (Nat.zero_add _)
  complete pos hp stop hm := by
    have ⟨f, hf, hcov⟩ :=
      findFrom_complete (Nat.zero_add _) (Nat.zero_le pos) (Nat.zero_le pos) hp hm
    exact ⟨f.span, List.mem_map.mpr ⟨f, hf, rfl⟩, hcov⟩
  few := by
    rw [List.length_map]
    exact length_findFrom_le (Nat.zero_add _)

end Proofread.Pattern
