import Mathlib.Data.List.Forall2
import Proofread.Validation

namespace Proofread.Validation

variable {α β : Type} {check : α → Checked β}

theorem Checked.issues_under (step : Step) (checked : Checked β) :
    (checked.under step).issues = checked.issues.map (·.under step) := by
  cases checked <;> rfl

def itemIssues (check : α → Checked β) (first : Nat) (items : List α) : List Issue :=
  (items.zipIdx first).flatMap fun (item, index) =>
    (check item).issues.map (·.under (.item index))

theorem checkItems_go_issues (first : Nat) (items : List α) :
    (checkItems.go check first items).issues = itemIssues check first items := by
  induction items generalizing first
  case nil => rfl
  case cons item items ih =>
    have cons : itemIssues check first (item :: items)
        = ((check item).under (.item first)).issues ++ itemIssues check (first + 1) items :=
      congrArg (· ++ _) (Checked.issues_under _ _).symm
    rw [cons, ← ih, checkItems.go]
    cases (check item).under (.item first) <;> cases checkItems.go check (first + 1) items <;> rfl

theorem checkItems_go_eq_ok_iff {first : Nat} {items : List α} {values : List β} :
    checkItems.go check first items = .ok values
      ↔ items.Forall₂ (check · = .ok ·) values := by
  induction items generalizing first values
  case nil => simp [checkItems.go, eq_comm]
  case cons item items ih =>
    simp only [checkItems.go, List.forall₂_cons_left_iff, ← @ih (first + 1)]
    cases check item <;> cases checkItems.go check (first + 1) items <;>
      simp [Checked.under, eq_comm]

theorem checkItems_issues (items : List α) :
    (checkItems check items).issues = itemIssues check 0 items :=
  checkItems_go_issues 0 items

theorem checkItems_eq_ok_iff {items : List α} {values : List β} :
    checkItems check items = .ok values ↔ items.Forall₂ (check · = .ok ·) values :=
  checkItems_go_eq_ok_iff

theorem exists_checkItems_eq_ok {items : List α} (h : ∀ item ∈ items, ∃ value, check item = .ok value) :
    ∃ values, checkItems check items = .ok values := by
  simp only [checkItems_eq_ok_iff]
  induction items
  case nil => exact ⟨[], .nil⟩
  case cons item items ih =>
    have ⟨value, hv⟩ := h item List.mem_cons_self
    have ⟨values, hs⟩ := ih fun other ho => h other (List.mem_cons_of_mem _ ho)
    exact ⟨value :: values, .cons hv hs⟩

def Checked.Explained (checked : Checked β) : Prop :=
  checked ≠ .error []

theorem Checked.Explained.issues_eq_nil_iff {checked : Checked β} (h : checked.Explained) :
    checked.issues = [] ↔ ∃ value, checked = .ok value := by
  cases checked
  case ok value     => simp [issues]
  case error issues =>
    have told : issues ≠ [] := fun he => h (congrArg Except.error he)
    simp [Checked.issues, told]

theorem Checked.Explained.under {checked : Checked β} (h : checked.Explained) (step : Step) :
    (checked.under step).Explained := by
  cases checked
  case ok value     => exact fun he => nomatch he
  case error issues => simpa [Explained, Checked.under] using h

theorem checkItems_explained (h : ∀ item, (check item).Explained) (items : List α) :
    (checkItems check items).Explained := by
  intro he
  have none : itemIssues check 0 items = [] := by rw [← checkItems_issues, he]; rfl
  have passed (item) (hi : item ∈ items) : ∃ value, check item = .ok value := by
    refine (h item).issues_eq_nil_iff.mp ?_
    have ⟨index, hz⟩ := List.mem_iff_getElem?.mp hi
    have := List.flatMap_eq_nil_iff.mp none _ (List.mk_mem_zipIdx_iff_getElem?.mpr hz)
    simpa using this
  have ⟨values, hv⟩ := exists_checkItems_eq_ok passed
  cases he.symm.trans hv

end Proofread.Validation
