import Proofread.Proofs.Segment.Decimal

namespace Proofread.Uncertainty

open Pattern Text

section

variable (text : List Char)

def digitsBefore (sign : Nat) : Span :=
  ⟨runStart Char.isDigit text (runStart isBlank text sign), runStart isBlank text sign⟩

def whole? : (place : Nat) → Option Span
  | 0         => none
  | point + 1 =>
    if isAt (· == '.') text point && isBefore Char.isDigit text point then
      some ⟨runStart Char.isDigit text point, point⟩
    else
      none

-- A digit stands on either side of the sign, blanks aside.
def isBetween (sign : Nat) : Bool :=
  isSign text sign && isBefore Char.isDigit text (digitsBefore text sign).stop
    && isAt Char.isDigit text (behindSign text sign)

def signs : List Nat :=
  (List.range text.length).filter (isBetween text)

end

variable {text : List Char} {sign next place : Nat}

theorem not_isAt_sign {kind : Char → Bool} (h : isSign text sign)
    (others : ['\\', 'p', 'm'].any kind = false) :
    ∀ q, sign ≤ q → q < sign + 3 → isAt kind text q = false := by
  intro q hle hlt
  simp only [List.any_cons, List.any_nil, Bool.or_false, Bool.or_eq_false_iff] at others
  have ⟨first, rest⟩ := isSign_iff.mp h
  obtain rfl | rfl | rfl : q = sign ∨ q = sign + 1 ∨ q = sign + 2 := by omega
  · simp [isAt, first, others]
  all_goals
    obtain ⟨second, third⟩ | ⟨second, third⟩ := rest <;> simp [isAt, second, third, others]

theorem sign_apart (h : isSign text sign) (h' : isSign text next) (hlt : sign < next) :
    sign + 3 ≤ next := by
  refine Nat.le_of_not_lt fun hn => ?_
  have other := (isSign_iff.mp h').1
  have ⟨_, rest⟩ := isSign_iff.mp h
  obtain rfl | rfl : next = sign + 1 ∨ next = sign + 2 := by omega
  all_goals simp [other] at rest

theorem not_isDigit_sign (h : isSign text sign) :
    ∀ q, sign ≤ q → q < sign + 3 → isAt Char.isDigit text q = false :=
  not_isAt_sign h rfl

theorem not_isBlank_sign (h : isSign text sign) : isAt isBlank text sign = false :=
  not_isAt_sign h rfl sign (Nat.le_refl _) (by omega)

structure Between (text : List Char) (sign : Nat) : Prop where
  stands : isSign text sign
  digits : IsRun Char.isDigit text (digitsBefore text sign).start (digitsBefore text sign).stop
  fits   : (digitsBefore text sign).stop ≤ sign
  blanks : ∀ q, (digitsBefore text sign).stop ≤ q → q < sign → isAt isBlank text q
  behind : sign + 3 ≤ behindSign text sign
  space  : ∀ q, sign + 3 ≤ q → q < behindSign text sign → isAt isBlank text q
  error  : IsRun Char.isDigit text (behindSign text sign)
    (runEnd Char.isDigit text (behindSign text sign))

theorem not_isAt_digitsBefore {kind : Char → Bool} (h : isSign text sign) (slash : kind '\\' = false)
    (blank : ∀ {c}, isBlank c → kind c = false) :
    isAt kind text (digitsBefore text sign).stop = false := by
  have ⟨blanks, _⟩ := runStart_spec isBlank text sign
  have fits : runStart isBlank text sign ≤ sign := runStart_le
  obtain he | hlt := Nat.eq_or_lt_of_le fits
  · simp [digitsBefore, he, isAt, (isSign_iff.mp h).1, slash]
  · exact not_isAt blank (blanks _ (Nat.le_refl _) hlt)

theorem between_of_isBetween (h : isBetween text sign) : Between text sign := by
  simp only [isBetween, Bool.and_eq_true] at h
  obtain ⟨⟨stands, before⟩, after⟩ := h
  have behind : sign + 3 ≤ behindSign text sign := le_runEnd
  have space : ∀ q, sign + 3 ≤ q → q < behindSign text sign → isAt isBlank text q :=
    (runEnd_spec isBlank text (sign + 3)).1
  have left : isAt Char.isDigit text (digitsBefore text sign).stop = false :=
    not_isAt_digitsBefore stands (by decide) not_isDigit_of_isBlank
  have right : isBefore Char.isDigit text (behindSign text sign) = false := by
    obtain ⟨gap, hg⟩ := Nat.exists_eq_add_of_le behind
    rw [hg]
    cases gap
    case zero => exact not_isDigit_sign stands (sign + 2) (by omega) (by omega)
    case succ gap =>
      exact not_isAt not_isDigit_of_isBlank (space (sign + 3 + gap) (by omega) (by omega))
  exact {
    stands, behind, space
    digits := isRun_runStart before left
    fits   := runStart_le
    blanks := (runStart_spec isBlank text sign).1
    error  := isRun_runEnd after right
  }

theorem isBetween_lt (h : isBetween text sign) : sign < text.length := by
  have stands := isSign_iff.mp (between_of_isBetween h).stands
  exact lt_length_of_isAt (isAt_beq.mpr stands.1)

theorem places?_cases (text : List Char) (place : Nat) :
    places? text place = none ∨
      isAt (· == '.') text place ∧ ∃ stop, places? text place = some ⟨place + 1, stop⟩ ∧
        IsRun Char.isDigit text (place + 1) stop := by
  rw [places?]
  split
  case isFalse => exact .inl rfl
  case isTrue h =>
    rw [Bool.and_eq_true] at h
    exact .inr ⟨h.1, _, rfl, isRun_runEnd h.2 (not_isAt not_isDigit_of_point h.1)⟩

theorem decimal_stop {pos : Nat} (h : isAt Char.isDigit text pos) :
    pos < (decimal text pos).stop ∧ isBefore Char.isDigit text (decimal text pos).stop ∧
      isAt Char.isDigit text (decimal text pos).stop = false ∧
      ∀ q, pos ≤ q → q < (decimal text pos).stop → isAt isFigure text q := by
  have ⟨inside, behind⟩ := runEnd_spec Char.isDigit text pos
  have whole := lt_runEnd h
  simp only [decimal, Decimal.stop]
  obtain he | ⟨point, stop, he, run⟩ := places?_cases text (runEnd Char.isDigit text pos)
  case inl =>
    rw [he]
    exact ⟨whole, isBefore_of_inside whole inside, behind,
      fun q hq hs => isAt_imp isFigure_of_isDigit (inside q hq hs)⟩
  case inr =>
    have := run.nonempty
    rw [he]
    have before := isBefore_of_inside run.nonempty run.inside
    refine ⟨by simp only [Option.elim_some]; omega, before, run.behind, fun q hq hs => ?_⟩
    obtain hlt | rfl | hlt := Nat.lt_trichotomy q (runEnd Char.isDigit text pos)
    · exact isAt_imp isFigure_of_isDigit (inside q hq hlt)
    · exact isAt_imp isFigure_of_point point
    · exact isAt_imp isFigure_of_isDigit (run.inside q hlt hs)

theorem whole?_spec {whole : Span} (h : whole? text place = some whole) :
    whole.stop + 1 = place ∧ isAt (· == '.') text whole.stop ∧
      IsRun Char.isDigit text whole.start whole.stop := by
  cases place
  case zero => cases h
  case succ point =>
    rw [whole?] at h
    split at h
    case isFalse => cases h
    case isTrue hp =>
      rw [Bool.and_eq_true] at hp
      cases h
      exact ⟨rfl, hp.1, isRun_runStart hp.2 (not_isAt not_isDigit_of_point hp.1)⟩

variable {pos cursor : Nat} {r : Reading}

theorem read?_eq_some_iff :
    read? text pos = some r ↔
      isAt Char.isDigit text pos ∧ isSign text r.sign ∧
        isAt Char.isDigit text (behindSign text r.sign) ∧ r.value = decimal text pos ∧
        r.sign = runEnd isBlank text r.value.stop ∧ r.error = decimal text (behindSign text r.sign) := by
  obtain ⟨value, sign, error⟩ := r
  simp only [read?, Option.ite_none_right_eq_some, Bool.and_eq_true, Option.some.injEq,
    Reading.mk.injEq]
  constructor
  · rintro ⟨⟨⟨h, hs⟩, he⟩, rfl, rfl, rfl⟩
    exact ⟨h, hs, he, rfl, rfl, rfl⟩
  · rintro ⟨h, hs, he, rfl, rfl, rfl⟩
    exact ⟨⟨⟨h, hs⟩, he⟩, rfl, rfl, rfl⟩

theorem between_of_read? (h : read? text pos = some r) :
    isBetween text r.sign ∧ (digitsBefore text r.sign).stop = r.value.stop := by
  obtain ⟨digit, stands, after, value, sign, _⟩ := read?_eq_some_iff.mp h
  have ⟨_, before, other, _⟩ := decimal_stop digit
  have ⟨blanks, _⟩ := runEnd_spec isBlank text r.value.stop
  rw [← value] at before other
  have stop : (digitsBefore text r.sign).stop = r.value.stop :=
    runStart_eq (sign ▸ le_runEnd) (sign ▸ blanks)
      (not_isBefore (fun h => not_isBlank_of_isFigure (isFigure_of_isDigit h)) before)
  refine ⟨?_, stop⟩
  simp only [isBetween, stands, stop, before, after, Bool.and_self]

theorem not_isSign_of_read? (h : read? text pos = some r) :
    pos < r.sign ∧ ∀ q, pos ≤ q → q < r.sign → isSign text q = false := by
  obtain ⟨digit, _, _, value, sign, _⟩ := read?_eq_some_iff.mp h
  have ⟨behind, _, _, figures⟩ := decimal_stop digit
  have ⟨blanks, _⟩ := runEnd_spec isBlank text r.value.stop
  have fits : r.value.stop ≤ r.sign := sign ▸ le_runEnd
  rw [← value] at behind figures
  refine ⟨by omega, fun q hq hs => ?_⟩
  by_cases hlt : q < r.value.stop
  case pos => exact not_isSign (by decide) (figures q hq hlt)
  case neg => exact not_isSign (by decide) (blanks q (by omega) (sign ▸ hs))

-- A place from which something is read lies in the number on the left of the sign, in its last digits
-- or in those before the point. No number goes on across the edge, so all of it lies behind.
theorem origin_of_read? (h : read? text pos = some r)
    (edge : IsEdge Char.isDigit text cursor) (hle : cursor ≤ pos) :
    cursor ≤ (digitsBefore text r.sign).start ∧
      ((digitsBefore text r.sign).start ≤ pos ∨
        ∃ whole, whole? text (digitsBefore text r.sign).start = some whole ∧
          cursor ≤ whole.start ∧ whole.start ≤ pos) := by
  have ⟨between, stop⟩ := between_of_read? h
  obtain ⟨digit, _, _, value, _, _⟩ := read?_eq_some_iff.mp h
  have ⟨inside, behind⟩ := runEnd_spec Char.isDigit text pos
  have hlt := lt_runEnd digit
  have start : (digitsBefore text r.sign).start = runStart Char.isDigit text r.value.stop :=
    congrArg _ stop
  have run := (between_of_isBetween between).digits
  rw [stop, start] at run
  rw [start]
  simp only [value, decimal, Decimal.stop] at run ⊢
  obtain he | ⟨point, stop, he, places⟩ := places?_cases text (runEnd Char.isDigit text pos)
  case inl =>
    simp only [he, Option.elim_none] at run ⊢
    exact ⟨run.le_start edge (by omega), .inl (runStart_le_of_inside inside)⟩
  case inr =>
    simp only [he, Option.elim_some, places.runStart_eq]
    have before := isBefore_of_inside hlt inside
    have whole := isRun_runStart before behind
    have taken : whole? text (runEnd Char.isDigit text pos + 1)
        = some ⟨runStart Char.isDigit text (runEnd Char.isDigit text pos),
          runEnd Char.isDigit text pos⟩ := by
      simp [whole?, point, before]
    -- The place lies before the point, so it is the whole part that must not go on across the edge.
    have begins := whole.le_start edge (by omega)
    exact ⟨by omega, .inr ⟨_, taken, begins, runStart_le_of_inside inside⟩⟩

theorem read?_of_stop (h : isBetween text sign) (digit : isAt Char.isDigit text pos)
    (stop : (decimal text pos).stop = (digitsBefore text sign).stop) :
    read? text pos = some ⟨decimal text pos, sign, decimal text (behindSign text sign)⟩ := by
  have between := between_of_isBetween h
  have reached : runEnd isBlank text (digitsBefore text sign).stop = sign :=
    runEnd_eq between.fits between.blanks (not_isBlank_sign between.stands)
  have after := between.error.inside _ (Nat.le_refl _) between.error.nonempty
  refine read?_eq_some_iff.mpr ⟨digit, between.stands, after, rfl, ?_, rfl⟩
  rw [stop, reached]

theorem decimal_digitsBefore (h : isBetween text sign) :
    decimal text (digitsBefore text sign).start = ⟨digitsBefore text sign, none⟩ := by
  have between := between_of_isBetween h
  have point : isAt (· == '.') text (digitsBefore text sign).stop = false :=
    not_isAt_digitsBefore between.stands (by decide) not_point_of_isBlank
  rw [decimal, between.digits.runEnd_eq, places?, point]
  rfl

theorem decimal_whole {whole : Span} (h : isBetween text sign)
    (hw : whole? text (digitsBefore text sign).start = some whole) :
    decimal text whole.start = ⟨whole, some (digitsBefore text sign)⟩ := by
  have digits := (between_of_isBetween h).digits
  obtain ⟨next, point, run⟩ := whole?_spec hw
  have first := digits.inside _ (Nat.le_refl _) digits.nonempty
  rw [decimal, run.runEnd_eq, places?, point, next, first, digits.runEnd_eq]
  rfl

end Proofread.Uncertainty
