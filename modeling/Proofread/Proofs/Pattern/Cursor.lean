import Proofread.Proofs.Pattern.Cut

namespace Proofread.Pattern

variable {p : Pattern} {text : Array Char} {pos next : Nat}

def findAfter (p : Pattern) (text : Array Char) (pos : Nat) : List Finding :=
  p.findFrom text (text.size + 1 - pos) pos pos

theorem findAll_eq_findAfter : p.findAll text = p.findAfter text 0 :=
  rfl

theorem findFrom_eq_findAfter {left : Nat} (hl : pos + left = text.size + 1) (h : pos ≤ next) :
    p.findFrom text left pos next = p.findAfter text next := by
  induction left generalizing pos
  case zero => rw [findAfter, show text.size + 1 - next = 0 by omega, findFrom, findFrom]
  case succ left ih =>
    by_cases hlt : pos < next
    case pos => rw [findFrom_skip hlt, ih (by omega) hlt]
    case neg =>
      have : pos = next := by omega
      subst this
      rw [findAfter, show text.size + 1 - pos = left + 1 by omega]

theorem findAfter_of_size_lt (h : text.size < pos) : p.findAfter text pos = [] := by
  rw [findAfter, show text.size + 1 - pos = 0 by omega, findFrom]

theorem findAfter_of_none (h : p.matchesAt text pos = []) :
    p.findAfter text pos = p.findAfter text (pos + 1) := by
  by_cases hs : text.size < pos
  case pos => rw [findAfter_of_size_lt hs, findAfter_of_size_lt (by omega)]
  case neg =>
    rw [findAfter, show text.size + 1 - pos = text.size - pos + 1 by omega,
      findFrom_look (Nat.le_refl pos), h, List.nil_append, resume]
    exact (findFrom_next (Nat.le_succ pos) _).trans (findFrom_eq_findAfter (by omega) (Nat.le_refl _))

theorem findAfter_of_forall_none (h : pos ≤ next)
    (none : ∀ q, pos ≤ q → q < next → p.matchesAt text q = []) :
    p.findAfter text pos = p.findAfter text next := by
  obtain ⟨skipped, rfl⟩ := Nat.exists_eq_add_of_le h
  induction skipped
  case zero => rfl
  case succ skipped ih =>
    rw [ih (by omega) fun q hq hlt => none q hq (by omega),
      findAfter_of_none (none (pos + skipped) (by omega) (by omega)), Nat.add_assoc]

theorem findAfter_eq_nil (none : ∀ q, pos ≤ q → p.matchesAt text q = []) :
    p.findAfter text pos = [] :=
  findFrom_eq_nil fun q hq _ => none q hq

theorem findAfter_of_match {f : Finding} (hp : pos ≤ text.size) (h : p.matchesAt text pos = [f])
    (takes : pos < f.span.stop) :
    p.findAfter text pos = f :: p.findAfter text f.span.stop := by
  rw [findAfter, show text.size + 1 - pos = text.size - pos + 1 by omega,
    findFrom_look (Nat.le_refl pos), h, List.singleton_append, resume]
  exact congrArg _ (findFrom_eq_findAfter (by omega) takes)

theorem IsPrompt.findAfter_eq (prompt : p.IsPrompt text) (pos : Nat) :
    p.findAfter text pos
      = match (List.range' pos (text.size - pos)).findSome? (p.matchAt? text · fun _ => true) with
        | none   => []
        | some f => f :: p.findAfter text f.span.stop := by
  by_cases hlt : pos < text.size
  case neg =>
    rw [show text.size - pos = 0 by omega]
    refine findFrom_eq_nil fun q hq hs => ?_
    rw [prompt.matchesAt_eq]
    cases hf : p.matchAt? text q fun _ => true
    case none   => rfl
    case some f =>
      -- Nothing is left to take at the end of the text.
      have ⟨_, _, hm⟩ := matchAt?_eq_some hf
      have takes := prompt.takes hm
      have bounds := hm.bounds (by omega)
      omega
  case pos =>
    have here := prompt.matchesAt_eq pos
    rw [show text.size - pos = text.size - (pos + 1) + 1 by omega, List.range'_succ,
      List.findSome?_cons]
    cases hf : p.matchAt? text pos fun _ => true
    case none =>
      rw [hf] at here
      rw [findAfter_of_none here]
      exact prompt.findAfter_eq (pos + 1)
    case some f =>
      rw [hf] at here
      exact findAfter_of_match (Nat.le_of_lt hlt) here (prompt.takes (matchAt?_eq_some hf).2.2)
termination_by text.size - pos

end Proofread.Pattern
