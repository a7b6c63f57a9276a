import Proofread.Proofs.Pattern.Cursor
import Proofread.Proofs.Pattern.Delimited
import Proofread.Proofs.Pattern.Run
import Proofread.Proofs.Text.Find

namespace Proofread.Pattern

open Text

theorem contains_notSingle {d : Char} : (CharSet.notSingle d.toNat).contains = (· != d) := by
  funext c
  have one : (CharSet.notSingle d.toNat).contains c = !(CharSet.single d.toNat .exact).contains c := by
    simp [CharSet.contains, CharSet.notSingle, CharSet.single]
  rw [one, Bool.eq_iff_iff, Bool.not_eq_true', Bool.eq_false_iff, ne_eq, contains_single, bne_iff_ne]

variable {opener closer : String}

section

variable {text : Array Char}

def closing? (closer : String) (text : List Char) (inner : Nat) : Option Nat :=
  (List.range' inner (runEnd (· != '\n') text inner + 1 - inner)).find? fun place =>
    closer.toList.isPrefixOf (text.drop place)

def enclosing (opener closer : String) (start place : Nat) : Finding :=
  ⟨⟨start, place + closer.length⟩, [(1, ⟨start + opener.length, place⟩)]⟩

theorem head?_ways_closer (inner place : Nat) :
    ((literal closer).ways text (Progress.setGroup ⟨place, []⟩ 1 ⟨inner, place⟩)).head?
      = (Option.guard (closer.toList.isPrefixOf <| text.toList.drop ·) place).map fun place =>
          ⟨place + closer.length, [(1, ⟨inner, place⟩)]⟩ := by
  rw [ways_literal]
  by_cases stands : closer.toList <+: text.toList.drop place
  case pos => simp [Progress.setGroup, Option.guard, stands]
  case neg => simp [Progress.setGroup, Option.guard, stands]

theorem matchAt?_delimited (opener closer : String) (text : Array Char) (pos : Nat) :
    (delimited opener closer).matchAt? text pos (fun _ => true)
      = if opener.toList <+: text.toList.drop pos then
          (closing? closer text.toList (pos + opener.length)).map (enclosing opener closer pos)
        else none := by
  have line : (CharSet.notSingle 0xA).contains = (· != '\n') := @contains_notSingle '\n'
  -- The repetition offers the places of the line one after the other, and the closing phrase decides.
  have lazy := @iterate_char_lazy text ⟨pos + opener.length, []⟩ (CharSet.notSingle 0xA)
    (text.size + 1) (by simp only; omega)
  rw [matchAt?_true, ways_delimited, ways_literal]
  split
  case isFalse => rfl
  case isTrue =>
    rw [List.flatMap_singleton, lazy, line, List.flatMap_map, List.head?_flatMap, closing?]
    rw [List.find?_eq_findSome?_guard, List.map_findSome?, List.map_findSome?]
    refine congrArg (List.findSome? · _) (funext fun place => ?_)
    refine (congrArg _ (head?_ways_closer (pos + opener.length) place)).trans ?_
    rw [Option.map_map]
    rfl

end

variable {line : List Char} (single : '\n' ∉ line)
include single

theorem closing?_eq_find? {inner : Nat} (h : inner ≤ line.length) :
    closing? closer line inner = find? closer.toList line inner := by
  have whole : runEnd (· != '\n') line inner = line.length := by
    refine runEnd_eq h (fun q _ hlt => ?_) ?_
    · have ne : line.get ⟨q, hlt⟩ ≠ '\n' := fun he => single (he ▸ List.get_mem line ⟨q, hlt⟩)
      simpa [isAt, List.getElem?_eq_getElem hlt] using ne
    · simp [isAt]
  rw [closing?, whole, find?]

theorem matchesAt_delimited (ho : 0 < opener.length) (pos : Nat) :
    (delimited opener closer).matchesAt line.toArray pos
      = if opener.toList <+: line.drop pos then
          ((find? closer.toList line (pos + opener.length)).map (enclosing opener closer pos)).toList
        else [] := by
  rw [(delimited_isPrompt ho closer).matchesAt_eq, matchAt?_delimited]
  split
  case isFalse => rfl
  case isTrue h =>
    have fits : pos + opener.length ≤ line.length := by
      have := h.length_le
      rw [List.length_drop, String.length_toList, List.toList_toArray] at this
      omega
    rw [closing?_eq_find? single fits]

theorem findAfter_delimited (ho : 0 < opener.length) (hc : 0 < closer.length) (cursor : Nat) :
    (delimited opener closer).findAfter line.toArray cursor
      = match enclosed? opener.toList closer.toList line cursor with
        | none => []
        | some (start, place) => enclosing opener closer start place
            :: (delimited opener closer).findAfter line.toArray (place + closer.length) := by
  have opens : opener.toList ≠ [] := fun he => by simp [← String.length_toList, he] at ho
  have closes : closer.toList ≠ [] := fun he => by simp [← String.length_toList, he] at hc
  cases hs : find? opener.toList line cursor
  case none =>
    have none := (find?_eq_none_iff opens).mp hs
    simp only [enclosed?, hs, Option.bind_eq_bind, Option.bind_none]
    refine findAfter_eq_nil fun q hq => ?_
    rw [matchesAt_delimited single ho, if_neg (none q hq)]
  case some start =>
    obtain ⟨⟨hle, fits⟩, stands, first⟩ := find?_eq_some_iff.mp hs
    have skipped : ∀ q, cursor ≤ q → q < start →
        (delimited opener closer).matchesAt line.toArray q = [] := fun q hq hlt => by
      rw [matchesAt_delimited single ho, if_neg (first q hq hlt)]
    rw [findAfter_of_forall_none hle skipped]
    simp only [enclosed?, hs, Option.bind_eq_bind, Option.bind_some, String.length_toList]
    cases hp : find? closer.toList line (start + opener.length)
    case none =>
      have none := (find?_eq_none_iff closes).mp hp
      -- An opener that is not closed on the line leaves all later ones unclosed.
      have unclosed (q : Nat) (hq : start ≤ q) :
          find? closer.toList line (q + opener.length) = .none :=
        (find?_eq_none_iff closes).mpr fun q' hq' => none q' (by omega)
      simp only [Option.bind_none]
      refine findAfter_eq_nil fun q hq => ?_
      rw [matchesAt_delimited single ho, unclosed q hq]
      exact ite_self _
    case some place =>
      obtain ⟨⟨behind, _⟩, _⟩ := find?_eq_some_iff.mp hp
      have found : (delimited opener closer).matchesAt line.toArray start
          = [enclosing opener closer start place] := by
        rw [matchesAt_delimited single ho, if_pos stands, hp]
        rfl
      have takes : start < place + closer.length := by omega
      exact findAfter_of_match fits found takes

end Proofread.Pattern
