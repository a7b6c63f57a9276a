import Proofread.Files.Path
import Proofread.Proofs.Text.Find

namespace Proofread.Files.Path

def IsNormal (path : Path) : Prop :=
  ∀ part ∈ path.parts, isPlain part.toList ∧ '/' ∉ part.toList

theorem components_eq_splitOnPPrepend (part text : List Char) :
    components part text = List.splitOnPPrepend (· == '/') text part := by
  induction part, text using components.induct
  case case1 part => rw [components, List.splitOnPPrepend_nil]
  case case2 part rest ih =>
    rw [components, ih, List.splitOnPPrepend_cons_pos rfl]
    rfl
  case case3 part c rest hc ih =>
    rw [components, ih, List.splitOnPPrepend_cons_neg]
    · simpa using hc
    · exact hc

theorem components_eq_splitOn (text : List Char) : components [] text = text.splitOn '/' :=
  components_eq_splitOnPPrepend [] text

theorem ofString_isNormal (text : String) : (ofString text).IsNormal := by
  intro part hp
  simp only [ofString, List.mem_map, List.mem_filter] at hp
  obtain ⟨chars, ⟨hc, plain⟩, rfl⟩ := hp
  rw [components_eq_splitOn] at hc
  rw [String.toList_ofList]
  exact ⟨plain, Text.notMem_of_mem_splitOn hc⟩

section

variable {parts : List String} (h : ∀ part ∈ parts, isPlain part.toList ∧ '/' ∉ part.toList)
include h

theorem filter_splitOn_intercalate :
    ((['/'].intercalate (parts.map (·.toList))).splitOn '/').filter isPlain
      = parts.map (·.toList) := by
  by_cases hn : parts = []
  case pos => rw [hn]; rfl
  case neg =>
    rw [List.splitOn_intercalate, List.filter_eq_self]
    · simpa using fun part hp => (h part hp).1
    · simpa using fun part hp => (h part hp).2
    · simpa using hn

theorem head?_intercalate_ne_slash :
    (['/'].intercalate (parts.map (·.toList))).head? ≠ some '/' := by
  cases parts
  case nil => simp
  case cons part parts =>
    have ⟨plain, slashless⟩ := h part List.mem_cons_self
    obtain ⟨c, rest, hc⟩ : ∃ c rest, part.toList = c :: rest := by
      refine List.exists_cons_of_ne_nil fun hn => ?_
      simp [isPlain, hn] at plain
    have ne : c ≠ '/' := fun he => slashless (by simp [hc, he])
    cases parts <;> simp [hc, ne]

end

theorem rootOf_slashes {chars : List Char} (h : chars.head? ≠ some '/') (root : Root) :
    rootOf ((rootText root).toList ++ chars) = root := by
  cases chars
  case nil => cases root <;> rfl
  case cons c rest =>
    have hc : c ≠ '/' := fun he => h (by rw [he]; rfl)
    cases root <;> simp [rootText, rootOf, hc]

theorem filter_splitOn_root (root : Root) (chars : List Char) :
    (((rootText root).toList ++ chars).splitOn '/').filter isPlain
      = (chars.splitOn '/').filter isPlain := by
  have slash (rest : List Char) :
      (('/' :: rest).splitOn '/').filter isPlain = (rest.splitOn '/').filter isPlain := by
    simp [List.splitOn_cons_eq_if_modifyHead, isPlain]
  cases root
  case none => rfl
  case one  => exact slash chars
  case two  => exact (slash ('/' :: chars)).trans (slash chars)

theorem ofString_toString {path : Path} (h : path.IsNormal) : ofString path.toString = path := by
  obtain ⟨root, parts⟩ := path
  by_cases here : root = .none ∧ parts = []
  case pos =>
    obtain ⟨rfl, rfl⟩ := here
    decide
  case neg =>
    have written : (toString ⟨root, parts⟩).toList
        = (rootText root).toList ++ ['/'].intercalate (parts.map (·.toList)) := by
      simp only [toString]
      split
      case h_1 => exact absurd ⟨rfl, rfl⟩ here
      case h_2 => simp
    rw [ofString, written, components_eq_splitOn, filter_splitOn_root, filter_splitOn_intercalate h,
      rootOf_slashes (head?_intercalate_ne_slash h)]
    simp

end Proofread.Files.Path
