import Proofread.Pattern.Reading

namespace Proofread.Pattern

def signs : List Char :=
  "\\.^$*+?\x7b\x7d[]()|".toList

variable {c : Char} {chars : List Char}

theorem Token.ofText_verbatim (verbatim : ∀ c ∈ chars, c ∉ signs) :
    Token.ofText chars = chars.map .char := by
  induction chars
  case nil => rfl
  case cons c rest ih =>
    have ⟨hc, hr⟩ := List.forall_mem_cons.mp verbatim
    have ne : c ≠ '\\' := fun he => hc (he ▸ by decide)
    rw [Token.ofText, ih hr, List.map_cons]
    · exact fun he _ => ne he
    · exact fun _ _ he _ => ne he

theorem Reader.next_char (c : Char) (rest : List Char) (pos : Nat) :
    Reader.next ⟨(c :: rest).map .char, pos⟩ = .ok (some (.char c), ⟨rest.map .char, pos + 1⟩) := by
  cases rest <;> rfl

namespace Draft

variable {draft : Draft} {source : Source}

theorem character_verbatim (hc : c ∉ signs) :
    draft.character c source = .ok (draft.pushPoint c.toNat, source) := by
  have ne (d : Char) (hd : d ∈ signs) : c ≠ d := fun he => hc (he ▸ hd)
  rw [character]
  simp only [bind, StateT.bind, Reader.position, Except.bind]
  split
  case h_10 => rfl
  all_goals exact absurd rfl (ne _ (by decide))

theorem part_verbatim (hc : c ∉ signs) (plain : draft.frame.flags.verbose = false) :
    draft.part (.char c) source = .ok (draft.pushPoint c.toNat, source) := by
  rw [part, plain]
  exact character_verbatim hc

def pushChars (draft : Draft) (chars : List Char) : Draft :=
  chars.foldl (fun draft c => draft.pushPoint c.toNat) draft

theorem fill_char (hc : c ∉ signs) (plain : draft.frame.flags.verbose = false) (fuel : Nat)
    (rest : List Char) (pos : Nat) :
    fill (fuel + 1) draft ⟨(c :: rest).map .char, pos⟩
      = fill fuel (draft.pushPoint c.toNat) ⟨rest.map .char, pos + 1⟩ := by
  have closing : c ≠ ')' := fun he => hc (he ▸ by decide)
  have bar : c ≠ '|' := fun he => hc (he ▸ by decide)
  have next := Reader.next_char c rest pos
  have part : draft.part (.char c) ⟨rest.map .char, pos + 1⟩ = _ := part_verbatim hc plain
  rw [List.map_cons] at next ⊢
  simp [fill, bind, StateT.bind, Reader.peek, Except.bind, closing, bar, next, part]

theorem fill_verbatim (verbatim : ∀ c ∈ chars, c ∉ signs)
    (plain : draft.frame.flags.verbose = false) (pos : Nat) :
    fill chars.length draft ⟨chars.map .char, pos⟩
      = .ok (draft.pushChars chars, ⟨[], pos + chars.length⟩) := by
  induction chars generalizing draft pos
  case nil => rfl
  case cons c rest ih =>
    have ⟨hc, hr⟩ := List.forall_mem_cons.mp verbatim
    have plain' : (draft.pushPoint c.toNat).frame.flags.verbose = false := plain
    rw [List.length_cons, fill_char hc plain, ih hr plain', Nat.add_assoc, Nat.add_comm 1]
    rfl

theorem pushChars_eq (draft : Draft) (chars : List Char) :
    draft.pushChars chars = { draft with frame := { draft.frame with
      parts := (chars.map fun c => .free (.char (.single c.toNat draft.frame.flags.fold))).reverse
        ++ draft.frame.parts } } := by
  induction chars generalizing draft
  case nil => rfl
  case cons c rest ih =>
    rw [pushChars, List.foldl_cons]
    exact (ih _).trans (by simp [pushPoint, push, Frame.push])

theorem finish_pushChars (chars : List Char) (pos : Nat) :
    (initial.pushChars chars).finish ⟨[], pos⟩ = .ok (concat (chars.map ofChar), ⟨[], pos⟩) := by
  have pattern : (initial.pushChars chars).frame.pattern = concat (chars.map ofChar) := by
    simp [pushChars_eq, initial, Frame.pattern, Frame.divide, Frame.sequence, choice,
      Function.comp_def]
    rfl
  rw [finish, pattern, pushChars_eq]
  rfl

end Draft

theorem ofString?_verbatim {phrase : String} (verbatim : ∀ c ∈ phrase.toList, c ∉ signs) :
    ofString? phrase = .ok (literal phrase) := by
  have filled : Draft.fill phrase.toList.length .initial ⟨phrase.toList.map .char, 0⟩ = _ :=
    Draft.fill_verbatim verbatim rfl 0
  have finished := Draft.finish_pushChars phrase.toList (0 + phrase.toList.length)
  rw [ofString?, Token.ofText_verbatim verbatim]
  split
  case h_1 rest he =>
    cases hp : phrase.toList <;> simp [hp] at he
  case h_2 =>
    simp only [StateT.run', bind, StateT.bind, Except.bind, List.length_map, filled, finished]
    rfl

end Proofread.Pattern
