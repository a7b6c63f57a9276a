import Proofread.Proofs.Dictionary.Written
import Proofread.Proofs.Validation
import Proofread.Session

namespace Proofread.Dictionary

open Validation

namespace Pair

def memberIssues (name : String) : Option Json → List Issue
  | some (.string _) => []
  | some _ => [⟨.notText, [.member name]⟩]
  | none => [⟨.missing, [.member name]⟩]

def issues : Json → List Issue
  | .object members =>
    memberIssues "incorrect" (Table.get? members "incorrect")
      ++ memberIssues "correct" (Table.get? members "correct")
  | _ => [⟨.notObject .pair, []⟩]

structure IsOf (pair : Pair) (row : Json) : Prop where
  incorrect : row.get? "incorrect" = some (.string pair.incorrect)
  correct   : row.get? "correct" = some (.string pair.correct)

theorem textMember_issues (name : String) (value : Option Json) :
    (textMember name value).issues = memberIssues name value := by
  cases value
  case none       => rfl
  case some value => cases value <;> rfl

theorem textMember_eq_ok_iff {name text : String} {value : Option Json} :
    textMember name value = .ok text ↔ value = some (.string text) := by
  unfold textMember
  split <;> simp_all

theorem memberIssues_eq_nil_iff {name : String} {value : Option Json} :
    memberIssues name value = [] ↔ ∃ text, value = some (.string text) := by
  unfold memberIssues
  split <;> simp_all

theorem ofJson_issues (row : Json) : (ofJson row).issues = issues row := by
  cases row
  case object members =>
    simp only [ofJson, ofMembers, issues, ← textMember_issues]
    cases textMember "incorrect" (Table.get? members "incorrect") <;>
      cases textMember "correct" (Table.get? members "correct") <;> rfl
  all_goals rfl

theorem ofJson_eq_ok_iff {row : Json} {pair : Pair} : ofJson row = .ok pair ↔ pair.IsOf row := by
  have texts : pair.IsOf row ↔ textMember "incorrect" (row.get? "incorrect") = .ok pair.incorrect ∧
      textMember "correct" (row.get? "correct") = .ok pair.correct := by
    rw [textMember_eq_ok_iff, textMember_eq_ok_iff]
    exact ⟨fun h => ⟨h.incorrect, h.correct⟩, fun h => ⟨h.1, h.2⟩⟩
  rw [texts]
  cases row
  case object members =>
    simp only [ofJson, ofMembers, Json.get?]
    cases textMember "incorrect" (Table.get? members "incorrect") <;>
      cases textMember "correct" (Table.get? members "correct") <;> simp
    case ok.ok incorrect correct =>
      constructor
      · rintro rfl
        exact ⟨rfl, rfl⟩
      · rintro ⟨rfl, rfl⟩
        rfl
  all_goals simp [ofJson, Json.get?, textMember]

theorem issues_eq_nil_iff {row : Json} : issues row = [] ↔ ∃ pair : Pair, pair.IsOf row := by
  constructor
  case mpr =>
    intro ⟨pair, h⟩
    rw [← ofJson_issues, ofJson_eq_ok_iff.mpr h]
    rfl
  case mp =>
    intro h
    cases row
    case object members =>
      have ⟨hi, hc⟩ := List.append_eq_nil_iff.mp h
      have ⟨incorrect, hi⟩ := memberIssues_eq_nil_iff.mp hi
      have ⟨correct, hc⟩ := memberIssues_eq_nil_iff.mp hc
      exact ⟨⟨incorrect, correct⟩, hi, hc⟩
    all_goals cases h

end Pair

structure Entry.IsOf (entry : Entry) (row : Json) : Prop where
  pair    : entry.pair.IsOf row
  pattern : Pattern.ofString? entry.incorrect = .ok entry.pattern

section

variable {store : Files.Store} {path : Files.Path} {rows : List Json}

end

end Proofread.Dictionary
