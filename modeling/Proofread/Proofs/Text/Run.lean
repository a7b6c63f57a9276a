namespace Proofread.Text

def isAt (kind : Char → Bool) (text : List Char) (place : Nat) : Bool :=
  text[place]?.any kind

def isBefore (kind : Char → Bool) (text : List Char) : Nat → Bool
  | 0         => false
  | place + 1 => isAt kind text place

-- Where the characters of the kind come to an end that stand at the place and behind it.
def runEnd (kind : Char → Bool) (text : List Char) (place : Nat) : Nat :=
  place + ((text.drop place).takeWhile kind).length

def runStart (kind : Char → Bool) (text : List Char) : Nat → Nat
  | 0         => 0
  | place + 1 => if isAt kind text place then runStart kind text place else place + 1

variable {kind : Char → Bool} {text : List Char} {place stop start : Nat}

theorem lt_length_of_isAt (h : isAt kind text place) : place < text.length := by
  refine Nat.lt_of_not_le fun hge => ?_
  simp [isAt, List.getElem?_eq_none hge] at h

theorem isAt_beq {c : Char} : isAt (· == c) text place ↔ text[place]? = some c := by
  rw [isAt]
  cases text[place]? <;> simp

theorem isAt_imp {kind' : Char → Bool} (imp : ∀ {c}, kind c → kind' c) (h : isAt kind text place) :
    isAt kind' text place := by
  rw [isAt] at h ⊢
  cases hc : text[place]?
  case none   => simp [hc] at h
  case some c =>
    rw [hc] at h
    exact imp h

theorem not_isAt {kind' : Char → Bool} (other : ∀ {c}, kind c → kind' c = false)
    (h : isAt kind text place) : isAt kind' text place = false := by
  rw [isAt] at h ⊢
  cases hc : text[place]?
  case none   => rfl
  case some c =>
    rw [hc] at h
    exact other h

theorem not_isBefore {kind' : Char → Bool} (other : ∀ {c}, kind c → kind' c = false)
    (h : isBefore kind text place) : isBefore kind' text place = false := by
  cases place
  case zero       => rfl
  case succ place => exact not_isAt other h

theorem isBefore_of_inside (hlt : start < stop)
    (inside : ∀ q, start ≤ q → q < stop → isAt kind text q) : isBefore kind text stop := by
  cases stop
  case zero      => omega
  case succ stop => exact inside stop (by omega) (by omega)

theorem runEnd_of_isAt (h : isAt kind text place) :
    runEnd kind text place = runEnd kind text (place + 1) := by
  have hlt := lt_length_of_isAt h
  simp only [isAt, List.getElem?_eq_getElem hlt, Option.any_some] at h
  rw [runEnd, runEnd, List.drop_eq_getElem_cons hlt, List.takeWhile_cons_of_pos h, List.length_cons]
  omega

theorem runEnd_of_not (h : isAt kind text place = false) : runEnd kind text place = place := by
  rw [runEnd]
  by_cases hlt : place < text.length
  case pos =>
    simp only [isAt, List.getElem?_eq_getElem hlt, Option.any_some] at h
    rw [List.drop_eq_getElem_cons hlt, List.takeWhile_cons_of_neg (by simp [h])]
    rfl
  case neg => simp [List.drop_eq_nil_of_le (Nat.not_lt.mp hlt)]

theorem le_runEnd : place ≤ runEnd kind text place :=
  Nat.le_add_right _ _

theorem runEnd_spec (kind : Char → Bool) (text : List Char) (place : Nat) :
    (∀ q, place ≤ q → q < runEnd kind text place → isAt kind text q) ∧
      isAt kind text (runEnd kind text place) = false := by
  by_cases h : isAt kind text place
  case pos =>
    have hlt := lt_length_of_isAt h
    have ⟨inside, behind⟩ := runEnd_spec kind text (place + 1)
    rw [runEnd_of_isAt h]
    refine ⟨fun q hq hs => ?_, behind⟩
    by_cases he : q = place
    case pos => exact he ▸ h
    case neg => exact inside q (by omega) hs
  case neg =>
    have h := Bool.eq_false_iff.mpr h
    rw [runEnd_of_not h]
    exact ⟨fun q hq hs => by omega, h⟩
termination_by text.length - place

theorem lt_runEnd (h : isAt kind text place) : place < runEnd kind text place := by
  rw [runEnd_of_isAt h]
  exact le_runEnd

theorem runEnd_eq (hle : place ≤ stop) (inside : ∀ q, place ≤ q → q < stop → isAt kind text q)
    (behind : isAt kind text stop = false) : runEnd kind text place = stop := by
  have ⟨inside', behind'⟩ := runEnd_spec kind text place
  obtain hlt | he | hlt := Nat.lt_trichotomy (runEnd kind text place) stop
  case inl     => exact absurd (inside _ le_runEnd hlt) (Bool.eq_false_iff.mp behind')
  case inr.inl => exact he
  case inr.inr => exact absurd (inside' _ hle hlt) (Bool.eq_false_iff.mp behind)

theorem runEnd_le (hle : place ≤ stop) (behind : isAt kind text stop = false) :
    runEnd kind text place ≤ stop := by
  refine Nat.le_of_not_lt fun hlt => Bool.eq_false_iff.mp behind ?_
  exact (runEnd_spec kind text place).1 stop hle hlt

theorem runEnd_mono {kind' : Char → Bool} (imp : ∀ {c}, kind c → kind' c) :
    runEnd kind text place ≤ runEnd kind' text place := by
  have ⟨_, behind⟩ := runEnd_spec kind' text place
  exact runEnd_le le_runEnd (Bool.eq_false_iff.mpr fun h => Bool.eq_false_iff.mp behind (isAt_imp imp h))

theorem runStart_le : runStart kind text place ≤ place := by
  induction place
  case zero => exact Nat.le_refl _
  case succ place ih =>
    rw [runStart]
    split <;> omega

theorem runStart_spec (kind : Char → Bool) (text : List Char) (place : Nat) :
    (∀ q, runStart kind text place ≤ q → q < place → isAt kind text q) ∧
      isBefore kind text (runStart kind text place) = false := by
  induction place
  case zero => exact ⟨fun q _ hs => by omega, rfl⟩
  case succ place ih =>
    by_cases h : isAt kind text place
    case pos =>
      rw [runStart, if_pos h]
      refine ⟨fun q hq hs => ?_, ih.2⟩
      by_cases he : q = place
      case pos => exact he ▸ h
      case neg => exact ih.1 q hq (by omega)
    case neg =>
      rw [runStart, if_neg h]
      exact ⟨fun q _ _ => by omega, Bool.eq_false_iff.mpr h⟩

theorem runStart_le_of_inside (inside : ∀ q, start ≤ q → q < place → isAt kind text q) :
    runStart kind text place ≤ start := by
  refine Nat.le_of_not_lt fun hlt => ?_
  have ⟨_, before⟩ := runStart_spec kind text place
  have hle' : runStart kind text place ≤ place := runStart_le
  cases hs : runStart kind text place
  case zero   => omega
  case succ q =>
    rw [hs] at before
    exact absurd (inside q (by omega) (by omega)) (Bool.eq_false_iff.mp before)

theorem runStart_eq (hle : start ≤ place) (inside : ∀ q, start ≤ q → q < place → isAt kind text q)
    (before : isBefore kind text start = false) : runStart kind text place = start := by
  refine Nat.le_antisymm (runStart_le_of_inside inside) (Nat.le_of_not_lt fun hlt => ?_)
  have ⟨inside', _⟩ := runStart_spec kind text place
  cases start
  case zero   => omega
  case succ q => exact absurd (inside' q (by omega) (by omega)) (Bool.eq_false_iff.mp before)

theorem runStart_lt (h : isBefore kind text place) : runStart kind text place < place := by
  cases place
  case zero => cases h
  case succ place =>
    have hle : runStart kind text place ≤ place := runStart_le
    rw [runStart, if_pos (show isAt kind text place from h)]
    omega

structure IsRun (kind : Char → Bool) (text : List Char) (start stop : Nat) : Prop where
  nonempty : start < stop
  inside   : ∀ q, start ≤ q → q < stop → isAt kind text q
  before   : isBefore kind text start = false
  behind   : isAt kind text stop = false

def IsEdge (kind : Char → Bool) (text : List Char) (place : Nat) : Prop :=
  isBefore kind text place = false ∨ isAt kind text place = false

theorem isRun_runEnd (h : isAt kind text start) (before : isBefore kind text start = false) :
    IsRun kind text start (runEnd kind text start) where
  nonempty := lt_runEnd h
  inside   := (runEnd_spec kind text start).1
  before   := before
  behind   := (runEnd_spec kind text start).2

theorem isRun_runStart (h : isBefore kind text stop) (behind : isAt kind text stop = false) :
    IsRun kind text (runStart kind text stop) stop where
  nonempty := runStart_lt h
  inside   := (runStart_spec kind text stop).1
  before   := (runStart_spec kind text stop).2
  behind   := behind

namespace IsRun

theorem outside (h : IsRun kind text start stop) (other : isAt kind text place = false) :
    place < start ∨ stop ≤ place := by
  by_cases hs : start ≤ place ∧ place < stop
  case pos => exact absurd (h.inside place hs.1 hs.2) (Bool.eq_false_iff.mp other)
  case neg => omega

theorem le_start (h : IsRun kind text start stop) (edge : IsEdge kind text place)
    (hlt : place < stop) : place ≤ start := by
  refine Nat.le_of_not_lt fun hs => ?_
  cases edge
  case inl before =>
    have := isBefore_of_inside hs fun q hq hp => h.inside q hq (by omega)
    exact absurd this (Bool.eq_false_iff.mp before)
  case inr behind => exact absurd (h.inside place (by omega) hlt) (Bool.eq_false_iff.mp behind)

theorem runEnd_eq (h : IsRun kind text start stop) : runEnd kind text start = stop :=
  Text.runEnd_eq (Nat.le_of_lt h.nonempty) h.inside h.behind

theorem runStart_eq (h : IsRun kind text start stop) : runStart kind text stop = start :=
  Text.runStart_eq (Nat.le_of_lt h.nonempty) h.inside h.before

end IsRun

end Proofread.Text
