import Proofread.Json.Reader
import Proofread.Text

namespace Proofread.Json

inductive Spaced : List (List Char) → List Char → Prop
  | done {gap : List Char} (blank : ∀ c ∈ gap, isBlank c) : Spaced [] gap
  | token {gap token rest : List Char} {tokens : List (List Char)} (blank : ∀ c ∈ gap, isBlank c)
      (more : Spaced tokens rest) : Spaced (token :: tokens) (gap ++ (token ++ rest))

structure IsToken (token : List Char) : Prop where
  ne_nil    : token ≠ []
  no_return : '\r' ∉ token
  no_feed   : '\n' ∉ token

theorem IsToken.sign {c : Char} (hr : '\r' ≠ c) (hf : '\n' ≠ c) : IsToken [c] where
  ne_nil    := List.cons_ne_nil c []
  no_return := mt List.mem_singleton.mp hr
  no_feed   := mt List.mem_singleton.mp hf

section

variable {gap rest : List Char} {pos : Nat}

theorem skipBlanks_gap {c : Char} (blank : ∀ c ∈ gap, isBlank c) (hc : isBlank c = false) :
    skipBlanks (gap ++ c :: rest) pos = ⟨c :: rest, pos + gap.length⟩ := by
  induction gap generalizing pos
  case nil => simp [skipBlanks, hc]
  case cons x gap ih =>
    simp only [List.mem_cons, forall_eq_or_imp] at blank
    simp only [List.cons_append, skipBlanks, blank.1, if_true, ih blank.2, List.length_cons]
    rw [Nat.add_assoc, Nat.add_comm 1]

theorem skipBlanks_blank (blank : ∀ c ∈ gap, isBlank c) :
    skipBlanks gap pos = ⟨[], pos + gap.length⟩ := by
  induction gap generalizing pos
  case nil => rfl
  case cons x gap ih =>
    simp only [List.mem_cons, forall_eq_or_imp] at blank
    simp only [skipBlanks, blank.1, if_true, ih blank.2, List.length_cons]
    rw [Nat.add_assoc, Nat.add_comm 1]

end

namespace Spaced

variable {text : List Char} {tokens : List (List Char)}

theorem flatten (tokens : List (List Char)) : Spaced tokens tokens.flatten := by
  induction tokens
  case nil => exact .done nofun
  case cons token tokens ih =>
    show Spaced (token :: tokens) ([] ++ (token ++ tokens.flatten))
    exact .token nofun ih

theorem skip {c : Char} {cs : List Char} (h : Spaced ((c :: cs) :: tokens) text) (pos : Nat)
    (hc : isBlank c = false) :
    ∃ rest next, skipBlanks text pos = ⟨c :: (cs ++ rest), next⟩ ∧ Spaced tokens rest := by
  cases h
  case token gap rest blank more => exact ⟨rest, _, skipBlanks_gap blank hc, more⟩

theorem skip_end (h : Spaced [] text) (pos : Nat) : ∃ next, skipBlanks text pos = ⟨[], next⟩ := by
  cases h
  case done blank => exact ⟨_, skipBlanks_blank blank⟩

theorem length_le (h : Spaced tokens text) (ht : ∀ token ∈ tokens, IsToken token) :
    tokens.length ≤ text.length := by
  induction h
  case done => simp
  case token token _ _ blank more ih =>
    have := List.length_pos_iff.mpr (ht token List.mem_cons_self).ne_nil
    have := ih fun t h => ht t (List.mem_cons_of_mem _ h)
    simp
    omega

end Spaced

theorem unifyNewlines_cons {c : Char} (h : c ≠ '\r') (rest : List Char) :
    Text.unifyNewlines (c :: rest) = c :: Text.unifyNewlines rest := by
  rw [Text.unifyNewlines] <;> simp [h]

theorem unifyNewlines_append {token : List Char} (h : '\r' ∉ token) (rest : List Char) :
    Text.unifyNewlines (token ++ rest) = token ++ Text.unifyNewlines rest := by
  induction token
  case nil => rfl
  case cons c token ih =>
    simp only [List.mem_cons, not_or] at h
    rw [List.cons_append, unifyNewlines_cons (Ne.symm h.1), ih h.2, List.cons_append]

theorem unifyNewlines_return {rest : List Char} (h : rest.head? ≠ some '\n') :
    Text.unifyNewlines ('\r' :: rest) = '\n' :: Text.unifyNewlines rest := by
  cases rest
  case nil       => rfl
  case cons c cs => rw [Text.unifyNewlines]; simpa using h

-- Blanks stay blanks, if they do not end inside a line end.
theorem unifyNewlines_gap {gap rest : List Char} (blank : ∀ c ∈ gap, isBlank c)
    (hr : rest.head? ≠ some '\n') :
    ∃ gap', (∀ c ∈ gap', isBlank c) ∧
      Text.unifyNewlines (gap ++ rest) = gap' ++ Text.unifyNewlines rest := by
  induction gap using Text.unifyNewlines.induct
  case case1 => exact ⟨[], by simp⟩
  case case2 gap ih =>
    have ⟨gap', blank', h⟩ := ih (by simp_all)
    exact ⟨'\n' :: gap', by simpa [isBlank] using blank', by simp [Text.unifyNewlines, h]⟩
  case case3 gap hne ih =>
    have ⟨gap', blank', h⟩ := ih (by simp_all)
    refine ⟨'\n' :: gap', by simpa [isBlank] using blank', ?_⟩
    have head : (gap ++ rest).head? ≠ some '\n' := by
      cases gap
      case nil       => exact hr
      case cons c cs => exact fun hc => hne cs (by simpa using hc)
    rw [List.cons_append, unifyNewlines_return head, h, List.cons_append]
  case case4 c gap _ hc ih =>
    have ⟨gap', blank', h⟩ := ih (by simp_all)
    refine ⟨c :: gap', by simp_all, ?_⟩
    rw [List.cons_append, unifyNewlines_cons (fun h => hc h), h, List.cons_append]

theorem Spaced.unifyNewlines {tokens : List (List Char)} {text : List Char} (h : Spaced tokens text)
    (ht : ∀ token ∈ tokens, IsToken token) : Spaced tokens (Text.unifyNewlines text) := by
  induction h
  case done gap blank =>
    have head : ([] : List Char).head? ≠ some '\n' := by simp
    have ⟨gap', blank', h⟩ := unifyNewlines_gap blank head
    rw [List.append_nil] at h
    exact h ▸ .done (by simpa [Text.unifyNewlines] using blank')
  case token gap token rest tokens blank more ih =>
    have isToken := ht token List.mem_cons_self
    have head : (token ++ rest).head? ≠ some '\n' := by
      have ⟨c, cs, hc⟩ := List.exists_cons_of_ne_nil isToken.ne_nil
      exact fun h => isToken.no_feed (by simp_all)
    have ⟨gap', blank', h⟩ := unifyNewlines_gap blank head
    rw [h, unifyNewlines_append isToken.no_return]
    exact .token blank' (ih fun t h => ht t (List.mem_cons_of_mem _ h))

end Proofread.Json
