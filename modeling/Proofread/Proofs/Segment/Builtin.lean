import Mathlib.Data.List.Nodup
import Proofread.Dictionary.Load
import Proofread.Proofs.Segment.Phrase

namespace Proofread

namespace Dictionary

theorem ofRows_builtin :
    ofRows (builtin.map fun entry => .list [.string entry.incorrect, .string entry.correct])
      = .ok builtin := by
  decide +kernel

theorem builtin_messages_nodup : (builtin.map Phrase.message).Nodup := by
  decide +kernel

theorem filter_eq_find? {α β : Type} [BEq β] [LawfulBEq β] {f : α → β} {xs : List α}
    (h : (xs.map f).Nodup) (b : β) : xs.filter (f · == b) = (xs.find? (f · == b)).toList := by
  induction xs
  case nil => rfl
  case cons x xs ih =>
    simp only [List.map_cons, List.nodup_cons, List.mem_map, not_exists, not_and] at h
    rw [List.filter_cons, List.find?_cons]
    split
    case isFalse hx => simp [hx, ih h.2]
    case isTrue hx =>
      have others : xs.filter (f · == b) = [] :=
        List.filter_eq_nil_iff.mpr fun y hy he => h.1 y hy ((eq_of_beq he).trans (eq_of_beq hx).symm)
      simp [hx, others]

end Dictionary

namespace Phrase

def isJapanese (x : Char) : Bool :=
  ItalicVariable.japanese.any (·.contains .exact x.toNat)

theorem builtin_cases : ∀ entry ∈ Dictionary.builtin,
    (entry.pattern = .literal entry.incorrect ∧ 0 < entry.incorrect.length ∧
      entry.incorrect.toList.all isJapanese) ∨
    entry.pattern = Dictionary.graphPattern := by
  decide +kernel

theorem filter_message_builtin (text : Array Char) (said : String) :
    (check .builtin text).filter (·.message == said)
      = (Dictionary.builtin.find? (message · == said)).elim [] (checkEntry text) := by
  rw [filter_message_check, Dictionary.filter_eq_find? Dictionary.builtin_messages_nodup]
  cases Dictionary.builtin.find? (message · == said) <;> simp [check]

end Phrase

theorem Segment.filter_message_pass (settings : Settings) (text said : String) :
    (pass [] .builtin settings text).diagnostics.filter
        (fun d => d.rule == "dictionary" && d.message == said)
      = (Dictionary.builtin.find? (Phrase.message · == said)).elim []
          (Phrase.checkEntry text.toList.toArray) := by
  rw [pass_of_allows_nil, ← Phrase.filter_message_builtin,
    ← filter_dictionary_check Dictionary.builtin settings, List.filter_filter]
  congr 1
  ext d
  exact Bool.and_comm ..

end Proofread
