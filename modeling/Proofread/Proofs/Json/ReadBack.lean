import Proofread.Proofs.Json.Spaced
import Proofread.Proofs.Json.String

namespace Proofread.Json

-- Values without numbers, in which no object has two members of one name.
inductive Textual : Json → Prop
  | null : Textual .null
  | bool (value : Bool) : Textual (.bool value)
  | string (text : String) : Textual (.string text)
  | array {items : List Json} (each : ∀ item ∈ items, Textual item) : Textual (.array items)
  | object {members : List (String × Json)} (distinct : (members.map (·.1)).Nodup)
      (each : ∀ member ∈ members, Textual member.2) : Textual (.object members)

-- The reader takes exactly the tokens of the value, and leaves what follows them. Any fuel from their
-- number on will do, as the reader of an array or an object hands on one less to each of its items.
def ReadsBack (charset : Charset) (value : Json) : Prop :=
  ∀ {more : List (List Char)} {text : List Char} (fuel pos : Nat),
    Spaced (tokens charset value ++ more) text → (tokens charset value).length ≤ fuel →
      ∃ rest next, readValue fuel (skipBlanks text pos) = .ok (value, ⟨rest, next⟩) ∧
        Spaced more rest

variable {charset : Charset}

theorem hexDigit_not_newline : ∀ d < 16, Text.hexDigit d ≠ '\r' ∧ Text.hexDigit d ≠ '\n' := by
  decide

theorem numbered_not_newline {unit : Nat} {c : Char} (h : c ∈ numbered unit) :
    c ≠ '\r' ∧ c ≠ '\n' := by
  have digit (n : Nat) := hexDigit_not_newline (n % 16) (Nat.mod_lt n (by decide))
  simp only [numbered, hex_four, List.mem_cons, List.not_mem_nil, or_false] at h
  rcases h with rfl | rfl | rfl | rfl | rfl | rfl
  · decide
  · decide
  all_goals exact digit _

theorem encodeChar_not_newline {c x : Char} (h : x ∈ charset.encodeChar c) :
    x ≠ '\r' ∧ x ≠ '\n' := by
  unfold Charset.encodeChar at h
  split at h
  case h_8 =>
    split at h
    case isTrue ha =>
      have := charset.space_le_of_allows ha
      rw [List.mem_singleton.mp h]
      constructor <;> rintro rfl <;> exact absurd this (by decide)
    case isFalse =>
      have ⟨unit, _, hu⟩ := List.mem_flatMap.mp h
      exact numbered_not_newline hu
  all_goals
    simp only [List.mem_cons, List.not_mem_nil, or_false] at h
    rcases h with rfl | rfl <;> decide

theorem encode_not_newline {text : String} {x : Char} (h : x ∈ charset.encode text) :
    x ≠ '\r' ∧ x ≠ '\n' := by
  simp only [Charset.encode, List.mem_cons, List.mem_append, List.mem_flatMap, List.not_mem_nil,
    or_false] at h
  rcases h with (rfl | ⟨c, _, h⟩) | rfl
  · decide
  · exact encodeChar_not_newline h
  · decide

theorem encode_isToken (text : String) : IsToken (charset.encode text) where
  ne_nil      := by simp [Charset.encode]
  no_return h := (encode_not_newline h).1 rfl
  no_feed h   := (encode_not_newline h).2 rfl

theorem Textual.tokens_head {value : Json} (h : Textual value) (charset : Charset) :
    ∃ c cs more, tokens charset value = (c :: cs) :: more ∧ isBlank c = false ∧ c ∉ [']', '\ufeff'] := by
  cases h
  case null              => exact ⟨'n', "ull".toList, [], rfl, by decide⟩
  case bool value        => cases value <;> exact ⟨_, _, [], rfl, by decide⟩
  case string text       => exact ⟨'"', _, [], rfl, by decide⟩
  case array items _     => cases items <;> exact ⟨'[', [], _, rfl, by decide⟩
  case object members _ _ =>
    rcases members with _ | ⟨⟨key, value⟩, members⟩ <;> exact ⟨'\x7b', [], _, rfl, by decide⟩

theorem stringRest_token {text : String} {tokens : List (List Char)} {document : List Char}
    (pos : Nat) (h : Spaced (charset.encode text :: tokens) document) :
    ∃ body start rest next, skipBlanks document pos = ⟨'"' :: body, start⟩ ∧
      stringRest start body (start + 1) 0 [] = .ok (text, ⟨rest, next⟩) ∧ Spaced tokens rest := by
  have ⟨rest, start, hs, hr⟩ := h.skip pos rfl
  have ⟨next, hb⟩ := stringRest_encode (start + 1) start [] charset text.toList rest
  exact ⟨_, start, rest, next, hs, by simpa using hb, hr⟩

theorem ReadsBack.string (text : String) : ReadsBack charset (.string text) := by
  intro more document fuel pos h hf
  have ⟨body, start, rest, next, hs, hb, hr⟩ := stringRest_token pos h
  cases fuel
  case zero => simp [tokens] at hf
  case succ fuel =>
    refine ⟨rest, next, ?_, hr⟩
    simp [hs, readValue, hb, bind, Except.bind, pure, Except.pure]

theorem ReadsBack.null : ReadsBack charset .null := by
  intro more document fuel pos h hf
  have ⟨rest, next, hs, hr⟩ := h.skip pos rfl
  cases fuel
  case zero      => simp [tokens] at hf
  case succ fuel => exact ⟨rest, next + 4, by rw [hs]; rfl, hr⟩

theorem ReadsBack.bool (value : Bool) : ReadsBack charset (.bool value) := by
  intro more document fuel pos h hf
  cases fuel
  case zero => cases value <;> simp [tokens] at hf
  case succ fuel =>
    cases value
    case false =>
      have ⟨rest, next, hs, hr⟩ := h.skip pos rfl
      exact ⟨rest, next + 5, by rw [hs]; rfl, hr⟩
    case true =>
      have ⟨rest, next, hs, hr⟩ := h.skip pos rfl
      exact ⟨rest, next + 4, by rw [hs]; rfl, hr⟩

theorem readItems_item {item : Json} (hv : ReadsBack charset item) {more : List (List Char)}
    {text : List Char} (fuel pos : Nat) (found : List Json)
    (h : Spaced (tokens charset item ++ more) text) (hf : (tokens charset item).length ≤ fuel) :
    ∃ rest next, Spaced more rest ∧
      (∀ {rest' next'}, skipBlanks rest next = ⟨']' :: rest', next'⟩ →
        readItems (fuel + 1) found (skipBlanks text pos)
          = .ok (.array (found.reverse ++ [item]), ⟨rest', next' + 1⟩)) ∧
      (∀ {rest' next'}, skipBlanks rest next = ⟨',' :: rest', next'⟩ →
        readItems (fuel + 1) found (skipBlanks text pos)
          = readItems fuel (item :: found) (skipBlanks rest' (next' + 1))) := by
  have ⟨rest, next, hv, hr⟩ := hv fuel pos h hf
  refine ⟨rest, next, hr, ?_, ?_⟩ <;> intro rest' next' hs
  all_goals
    simp [readItems, hv, bind, Except.bind, Cursor.skipBlanks, hs, pure, Except.pure, Cursor.drop]

theorem readItems_tokens {items : List Json} {item : Json} {more : List (List Char)}
    {text : List Char} (each : ∀ v ∈ item :: items, ReadsBack charset v) (fuel pos : Nat)
    (found : List Json) (h : Spaced (tokens charset item ++ itemTokens charset items ++ more) text)
    (hf : (tokens charset item ++ itemTokens charset items).length ≤ fuel) :
    ∃ rest next, readItems fuel found (skipBlanks text pos)
        = .ok (.array (found.reverse ++ item :: items), ⟨rest, next⟩) ∧ Spaced more rest := by
  induction items generalizing item found text fuel pos
  all_goals
    rw [List.append_assoc] at h
    rw [List.length_append] at hf
    cases fuel
  case nil.succ fuel =>
    have ⟨rest, next, hr, close, _⟩ :=
      readItems_item (each item (by simp)) fuel pos found h (by simp [itemTokens] at hf; omega)
    have ⟨rest', next', hs, hr'⟩ := hr.skip next rfl
    exact ⟨rest', next' + 1, close hs, hr'⟩
  case cons.succ item' items ih fuel =>
    have ⟨rest, next, hr, _, comma⟩ :=
      readItems_item (each item (by simp)) fuel pos found h (by simp [itemTokens] at hf; omega)
    have ⟨rest', next', hs, hr'⟩ := hr.skip next rfl
    have ⟨rest'', next'', hi, hr''⟩ := ih (fun v hv => each v (List.mem_cons_of_mem _ hv))
      fuel (next' + 1) (item :: found) hr' (by simp [itemTokens] at hf ⊢; omega)
    exact ⟨rest'', next'', by rw [comma hs]; simpa using hi, hr''⟩
  all_goals simp [itemTokens] at hf

theorem readValue_items {rest inside : List Char} {c : Char} {pos next : Nat} (fuel : Nat)
    (h : skipBlanks rest (pos + 1) = ⟨c :: inside, next⟩) (hc : c ≠ ']') :
    readValue (fuel + 1) ⟨'[' :: rest, pos⟩ = readItems fuel [] ⟨c :: inside, next⟩ := by
  simp only [readValue, h]
  split
  case h_1 he => exact absurd (List.cons.inj he).1 hc
  case h_2    => rfl

theorem ReadsBack.array {items : List Json} (textual : ∀ v ∈ items, Textual v)
    (each : ∀ v ∈ items, ReadsBack charset v) : ReadsBack charset (.array items) := by
  intro more text fuel pos h hf
  cases items <;> cases fuel
  case nil.succ fuel =>
    have ⟨rest, next, hs, hr⟩ := h.skip pos rfl
    have ⟨rest', next', hs', hr'⟩ := hr.skip (next + 1) rfl
    exact ⟨rest', next' + 1, by simp [hs, readValue, hs', Cursor.drop], hr'⟩
  case cons.succ item items fuel =>
    have ⟨rest, next, hs, hr⟩ := h.skip pos rfl
    have ⟨rest', next', hi, hr'⟩ := readItems_tokens each fuel (next + 1) [] hr (by
      simp [tokens] at hf ⊢
      omega)
    have ⟨c, cs, ts, hc, blank, hne⟩ := (textual item (by simp)).tokens_head charset
    rw [hc] at hr
    have ⟨inside, place, hp, _⟩ := hr.skip (next + 1) blank
    rw [hp] at hi
    have hne : c ≠ ']' := fun h => hne (h ▸ List.mem_cons_self)
    exact ⟨rest', next', by rw [hs]; exact (readValue_items fuel hp hne).trans hi, hr'⟩
  all_goals simp [tokens] at hf

theorem readMembers_member {key : String} {value : Json} (hv : ReadsBack charset value)
    {more : List (List Char)} {text : List Char} (fuel pos : Nat) (found : List (String × Json))
    (h : Spaced (charset.encode key :: [':'] :: (tokens charset value ++ more)) text)
    (hf : (tokens charset value).length ≤ fuel) :
    ∃ rest next, Spaced more rest ∧
      (∀ {rest' next'}, skipBlanks rest next = ⟨'\x7d' :: rest', next'⟩ →
        readMembers (fuel + 1) found (skipBlanks text pos)
          = .ok (.object (Table.ofPairs (found.reverse ++ [(key, value)])), ⟨rest', next' + 1⟩)) ∧
      (∀ {rest' next'}, skipBlanks rest next = ⟨',' :: rest', next'⟩ →
        readMembers (fuel + 1) found (skipBlanks text pos)
          = readMembers fuel ((key, value) :: found) (skipBlanks rest' (next' + 1))) := by
  have ⟨body, start, behind, place, hk, hb, hr⟩ := stringRest_token pos h
  have ⟨behind', place', hc, hr'⟩ := hr.skip place rfl
  have ⟨rest, next, hv, hr''⟩ := hv fuel (place' + 1) hr' hf
  refine ⟨rest, next, hr'', ?_, ?_⟩ <;> intro rest' next' hs
  all_goals
    simp [readMembers, hk, hb, hc, hv, bind, Except.bind, Cursor.skipBlanks, hs, pure, Except.pure,
      Cursor.drop]

theorem readMembers_tokens {members : List (String × Json)} {key : String} {value : Json}
    {more : List (List Char)} {text : List Char} (hv : ReadsBack charset value)
    (each : ∀ member ∈ members, ReadsBack charset member.2) (fuel pos : Nat)
    (found : List (String × Json))
    (h : Spaced (charset.encode key :: [':'] ::
      (tokens charset value ++ memberTokens charset members ++ more)) text)
    (hf : (tokens charset value ++ memberTokens charset members).length ≤ fuel) :
    ∃ rest next, readMembers fuel found (skipBlanks text pos)
        = .ok (.object (Table.ofPairs (found.reverse ++ (key, value) :: members)), ⟨rest, next⟩) ∧
      Spaced more rest := by
  induction members generalizing key value found text fuel pos
  all_goals
    rw [List.append_assoc] at h
    rw [List.length_append] at hf
    cases fuel
  case nil.succ fuel =>
    have ⟨rest, next, hr, close, _⟩ := readMembers_member hv fuel pos found h
      (by simp [memberTokens] at hf; omega)
    have ⟨rest', next', hs, hr'⟩ := hr.skip next rfl
    exact ⟨rest', next' + 1, close hs, hr'⟩
  case cons.succ member members ih fuel =>
    have ⟨rest, next, hr, _, comma⟩ := readMembers_member hv fuel pos found h
      (by simp [memberTokens] at hf; omega)
    have ⟨rest', next', hs, hr'⟩ := hr.skip next rfl
    simp only [List.mem_cons, forall_eq_or_imp] at each
    have ⟨rest'', next'', hi, hr''⟩ := ih each.1 each.2 fuel (next' + 1)
      ((key, value) :: found) hr' (by simp [memberTokens] at hf ⊢; omega)
    exact ⟨rest'', next'', by rw [comma hs]; simpa using hi, hr''⟩
  all_goals simp [memberTokens] at hf

theorem readValue_members {rest inside : List Char} {pos next : Nat} (fuel : Nat)
    (h : skipBlanks rest (pos + 1) = ⟨'"' :: inside, next⟩) :
    readValue (fuel + 1) ⟨'\x7b' :: rest, pos⟩ = readMembers fuel [] ⟨'"' :: inside, next⟩ := by
  simp [readValue, h]

theorem ReadsBack.object {members : List (String × Json)} (distinct : (members.map (·.1)).Nodup)
    (each : ∀ member ∈ members, ReadsBack charset member.2) :
    ReadsBack charset (.object members) := by
  intro more text fuel pos h hf
  cases members <;> cases fuel
  case nil.succ fuel =>
    have ⟨rest, next, hs, hr⟩ := h.skip pos rfl
    have ⟨rest', next', hs', hr'⟩ := hr.skip (next + 1) rfl
    exact ⟨rest', next' + 1, by simp [hs, readValue, hs', Cursor.drop], hr'⟩
  case cons.succ member members fuel =>
    simp only [List.mem_cons, forall_eq_or_imp] at each
    have ⟨rest, next, hs, hr⟩ := h.skip pos rfl
    change Spaced (charset.encode member.1 :: [':'] ::
      (tokens charset member.2 ++ memberTokens charset members ++ more)) rest at hr
    have ⟨rest', next', hi, hr'⟩ := readMembers_tokens each.1 each.2 fuel (next + 1) [] hr
      (by simp [tokens] at hf ⊢; omega)
    have ⟨inside, place, hp, _⟩ := hr.skip (next + 1) rfl
    have table : Table.ofPairs ([].reverse ++ member :: members) = member :: members :=
      Table.ofPairs_of_nodup distinct
    rw [hp, table] at hi
    exact ⟨rest', next', by rw [hs]; exact (readValue_members fuel hp).trans hi, hr'⟩
  all_goals simp [tokens] at hf

theorem Textual.readsBack {value : Json} (h : Textual value) : ReadsBack charset value := by
  induction h
  case null                 => exact ReadsBack.null
  case bool value           => exact ReadsBack.bool value
  case string text          => exact ReadsBack.string text
  case array each ih        => exact ReadsBack.array each ih
  case object distinct _ ih => exact ReadsBack.object distinct ih

theorem itemTokens_isToken {items : List Json}
    (each : ∀ item ∈ items, ∀ t ∈ tokens charset item, IsToken t) :
    ∀ t ∈ itemTokens charset items, IsToken t := by
  induction items <;> intro t h <;> rw [itemTokens] at h
  case nil => exact List.mem_singleton.mp h ▸ .sign (by simp) (by simp)
  case cons item items ih =>
    have ⟨first, others⟩ := List.forall_mem_cons.mp each
    simp only [List.mem_cons, List.mem_append] at h
    rcases h with rfl | h | h
    · exact .sign (by simp) (by simp)
    · exact first t h
    · exact ih others t h

theorem memberTokens_isToken {members : List (String × Json)}
    (each : ∀ member ∈ members, ∀ t ∈ tokens charset member.2, IsToken t) :
    ∀ t ∈ memberTokens charset members, IsToken t := by
  induction members <;> intro t h <;> rw [memberTokens] at h
  case nil => exact List.mem_singleton.mp h ▸ .sign (by simp) (by simp)
  case cons member members ih =>
    have ⟨first, others⟩ := List.forall_mem_cons.mp each
    simp only [List.mem_cons, List.mem_append] at h
    rcases h with rfl | rfl | rfl | h | h
    · exact .sign (by simp) (by simp)
    · exact encode_isToken _
    · exact .sign (by simp) (by simp)
    · exact first t h
    · exact ih others t h

theorem mem_tokens_array {items : List Json} {t : List Char}
    (h : t ∈ tokens charset (.array items)) : t = ['['] ∨ t ∈ itemTokens charset items := by
  cases items
  case nil       => exact List.mem_cons.mp h
  case cons _ _  => exact (List.mem_cons.mp h).imp_right (List.mem_cons_of_mem _)

theorem mem_tokens_object {members : List (String × Json)} {t : List Char}
    (h : t ∈ tokens charset (.object members)) :
    t = ['\x7b'] ∨ t ∈ memberTokens charset members := by
  cases members
  case nil      => exact List.mem_cons.mp h
  case cons _ _ => exact (List.mem_cons.mp h).imp_right (List.mem_cons_of_mem _)

theorem Textual.isToken {value : Json} (hv : Textual value) :
    ∀ t ∈ tokens charset value, IsToken t := by
  induction hv <;> intro t h
  case null        => exact List.mem_singleton.mp h ▸ ⟨by simp, by simp, by simp⟩
  case bool value  => cases value <;> exact List.mem_singleton.mp h ▸ ⟨by simp, by simp, by simp⟩
  case string text => exact List.mem_singleton.mp h ▸ encode_isToken text
  case array ih =>
    cases mem_tokens_array h
    case inl h => exact h ▸ .sign (by simp) (by simp)
    case inr h => exact itemTokens_isToken ih t h
  case object ih =>
    cases mem_tokens_object h
    case inl h => exact h ▸ .sign (by simp) (by simp)
    case inr h => exact memberTokens_isToken ih t h

theorem Textual.ofText? {value : Json} (hv : Textual value) {text : List Char}
    (h : Spaced (tokens charset value) text) : ofText? text = .ok value := by
  have bound := h.length_le hv.isToken
  have ⟨rest, next, read, hr⟩ := hv.readsBack (2 * text.length) 0
    (List.append_nil (tokens charset value) ▸ h) (by omega)
  have ⟨last, hl⟩ := hr.skip_end next
  have mark : ∀ rest, text ≠ '\ufeff' :: rest := by
    rintro rest rfl
    have ⟨c, cs, ts, hc, blank, hne⟩ := hv.tokens_head charset
    rw [hc] at h
    have ⟨_, _, hs, _⟩ := h.skip 0 blank
    have : '\ufeff' = c := (List.cons.inj (congrArg Cursor.rest hs)).1
    exact hne (by simp [← this])
  have document : readDocument text = .ok value := by
    unfold readDocument
    split
    case h_1 => exact absurd rfl (mark _)
    case h_2 => simp [read, bind, Except.bind, Cursor.skipBlanks, hl, pure, Except.pure]
  rw [Json.ofText?, document]
  rfl

end Proofread.Json
