namespace Proofread.Text

def find? (phrase text : List Char) (cursor : Nat) : Option Nat :=
  (List.range' cursor (text.length + 1 - cursor)).find? fun place =>
    phrase.isPrefixOf (text.drop place)

variable {phrase text : List Char} {cursor place : Nat}

theorem find?_eq_some_iff :
    find? phrase text cursor = some place ↔
      (cursor ≤ place ∧ place ≤ text.length) ∧ phrase <+: text.drop place ∧
        ∀ q, cursor ≤ q → q < place → ¬phrase <+: text.drop q := by
  rw [find?, List.find?_range'_eq_some, List.mem_range'_1]
  simp only [List.isPrefixOf_iff_prefix, Bool.not_eq_true', Bool.eq_false_iff, ne_eq]
  constructor
  · exact fun ⟨stands, ⟨hle, hlt⟩, first⟩ => ⟨⟨hle, by omega⟩, stands, first⟩
  · exact fun ⟨⟨hle, hlt⟩, stands, first⟩ => ⟨stands, ⟨hle, by omega⟩, first⟩

theorem lt_length_of_prefix_drop (h : phrase <+: text.drop place) (hn : phrase ≠ []) :
    place < text.length := by
  refine Nat.lt_of_not_le fun hge => hn ?_
  rw [List.drop_eq_nil_of_le hge] at h
  exact List.prefix_nil.mp h

theorem find?_eq_none_iff (hn : phrase ≠ []) :
    find? phrase text cursor = none ↔ ∀ q, cursor ≤ q → ¬phrase <+: text.drop q := by
  rw [find?, List.find?_range'_eq_none]
  simp only [List.isPrefixOf_iff_prefix, Bool.not_eq_true', Bool.eq_false_iff, ne_eq]
  constructor
  · intro none q hq stands
    have := lt_length_of_prefix_drop stands hn
    exact none q hq (by omega) stands
  · exact fun none q hq _ => none q hq

theorem find?_here (h : phrase <+: text.drop cursor) (hle : cursor ≤ text.length) :
    find? phrase text cursor = some cursor :=
  find?_eq_some_iff.mpr ⟨⟨Nat.le_refl _, hle⟩, h, fun q hq hlt => by omega⟩

theorem find?_next (h : ¬phrase <+: text.drop cursor) :
    find? phrase text cursor = find? phrase text (cursor + 1) := by
  ext place
  rw [find?_eq_some_iff, find?_eq_some_iff]
  constructor
  · rintro ⟨⟨hle, hlt⟩, stands, first⟩
    have ne : place ≠ cursor := fun he => h (he ▸ stands)
    exact ⟨⟨by omega, hlt⟩, stands, fun q hq => first q (by omega)⟩
  · rintro ⟨⟨hle, hlt⟩, stands, first⟩
    refine ⟨⟨by omega, hlt⟩, stands, fun q hq hlt' => ?_⟩
    by_cases he : q = cursor
    case pos => exact he ▸ h
    case neg => exact first q (by omega) hlt'

def enclosed? (opener closer text : List Char) (cursor : Nat) : Option (Nat × Nat) := do
  let start ← find? opener text cursor
  let place ← find? closer text (start + opener.length)
  return (start, place)

theorem enclosed?_bounds {opener closer : List Char} {start : Nat} (hn : closer ≠ [])
    (h : enclosed? opener closer text cursor = some (start, place)) :
    cursor ≤ start ∧ start + opener.length ≤ place ∧ place < text.length := by
  simp only [enclosed?, Option.bind_eq_bind, Option.bind_eq_some_iff] at h
  obtain ⟨_, hs, _, hp, he⟩ := h
  cases he
  have ⟨⟨opened, _⟩, _⟩ := find?_eq_some_iff.mp hs
  have ⟨⟨closed, _⟩, stands, _⟩ := find?_eq_some_iff.mp hp
  exact ⟨opened, closed, lt_length_of_prefix_drop stands hn⟩

theorem notMem_of_mem_splitOn {c : Char} {piece : List Char} (h : piece ∈ text.splitOn c) :
    c ∉ piece := by
  induction text generalizing piece
  case nil => simp_all [List.splitOn_nil]
  case cons d rest ih =>
    rw [List.splitOn_cons_eq_if_modifyHead] at h
    split at h
    case isTrue =>
      cases List.mem_cons.mp h
      case inl h => simp [h]
      case inr h => exact ih h
    case isFalse hd =>
      cases hs : rest.splitOn c
      case nil => exact absurd hs (List.splitOn_ne_nil c rest)
      case cons first others =>
        simp only [hs, List.modifyHead_cons, List.mem_cons] at h ih
        obtain rfl | h := h
        · have ne : c ≠ d := fun he => hd (by simp [he])
          simp [ne, ih (.inl rfl)]
        · exact ih (.inr h)

end Proofread.Text
