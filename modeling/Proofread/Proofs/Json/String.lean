import Proofread.Json.Printer
import Proofread.Json.Reader

namespace Proofread.Json

theorem hex_four (n : Nat) :
    Text.hex 4 n = [Text.hexDigit (n / 4096 % 16), Text.hexDigit (n / 256 % 16),
      Text.hexDigit (n / 16 % 16), Text.hexDigit (n % 16)] := by
  simp [Text.hex, Nat.div_div_eq_div_mul]

theorem hexValue?_hexDigit : ∀ d < 16, hexValue? (Text.hexDigit d) = some d := by
  decide

theorem hex4?_hexDigits {n : Nat} (h : n < 0x10000) :
    hex4? (Text.hexDigit (n / 4096 % 16)) (Text.hexDigit (n / 256 % 16))
      (Text.hexDigit (n / 16 % 16)) (Text.hexDigit (n % 16)) = some n := by
  simp [hex4?, hexValue?_hexDigit, Nat.mod_lt]
  omega

theorem charOfUnit_toNat (c : Char) : charOfUnit c.toNat = c := by
  have : c.toNat.isValidChar := c.valid
  rw [charOfUnit, dif_pos this]
  rfl

theorem charOfPair_units {c : Char} (h : 0x10000 ≤ c.toNat) :
    charOfPair (0xD800 + (c.toNat - 0x10000) / 0x400) (0xDC00 + (c.toNat - 0x10000) % 0x400)
      = c := by
  rw [charOfPair, show _ + _ + _ = c.toNat by omega, charOfUnit_toNat]

variable {rest : List Char} (pos start : Nat) (found : List Char)

theorem escape?_unit {n : Nat} (h : n < 0x10000) (hs : isHighSurrogate n = false) (hr : rest ≠ []) :
    escape? ('u' :: Text.hex 4 n ++ rest) pos start = .ok (charOfUnit n, 5) := by
  simp only [hex_four, List.cons_append, List.nil_append, escape?, List.isEmpty_eq_false_iff.mpr hr,
    Bool.false_eq_true, if_false, hex4?_hexDigits h, hs]
  split <;> rfl

theorem escape?_pair {high low : Nat} (hh : high < 0x10000) (hl : low < 0x10000)
    (shigh : isHighSurrogate high) (slow : isLowSurrogate low) (hr : rest ≠ []) :
    escape? ('u' :: Text.hex 4 high ++ numbered low ++ rest) pos start
      = .ok (charOfPair high low, 11) := by
  cases rest
  case nil         => exact absurd rfl hr
  case cons c rest =>
    simp [hex_four, numbered, escape?, hex4?_hexDigits hh, hex4?_hexDigits hl, shigh, slow]

theorem escape?_short {name c : Char} (h : shortEscape? name = some c) :
    escape? ([name] ++ rest) pos start = .ok (c, 1) := by
  have hu : name ≠ 'u' := by
    rintro rfl
    cases h
  rw [List.singleton_append, escape?.eq_def]
  split
  case h_4 he =>
    cases he
    rw [h]
  all_goals simp_all

theorem stringRest_drop {skip : Nat} (h : skip ≤ rest.length) :
    stringRest start rest pos skip found
      = stringRest start (rest.drop skip) (pos + skip) 0 found := by
  induction skip generalizing rest pos
  case zero => rfl
  case succ skip ih =>
    cases rest
    case nil => simp at h
    case cons c rest =>
      rw [stringRest, ih _ (by simpa using h), List.drop_succ_cons, Nat.add_assoc, Nat.add_comm 1]

theorem stringRest_escape {used : List Char} {n : Nat} {c : Char}
    (h : escape? (used ++ rest) (pos + 1) start = .ok (c, n)) (hn : used.length = n) :
    stringRest start ('\\' :: used ++ rest) pos 0 found
      = stringRest start rest (pos + 1 + n) 0 (c :: found) := by
  rw [List.cons_append, stringRest, if_neg (by decide), if_pos rfl, h]
  dsimp only
  rw [stringRest_drop _ _ _ (by simp [← hn]), ← hn, List.drop_left]

theorem stringRest_plain {c : Char} (hq : c ≠ '"') (hb : c ≠ '\\') (hc : ' ' ≤ c) :
    stringRest start (c :: rest) pos 0 found = stringRest start rest (pos + 1) 0 (c :: found) := by
  have : ¬c.toNat < 0x20 := Nat.not_lt.mpr hc
  rw [stringRest, if_neg hq, if_neg hb, if_neg this]

theorem Charset.space_le_of_allows {charset : Charset} {c : Char} (h : charset.allows c) :
    ' ' ≤ c := by
  cases charset <;> simp [allows] at h <;> simp [h]

theorem stringRest_units (c : Char) (hr : rest ≠ []) :
    ∃ next, stringRest start ((units c).flatMap numbered ++ rest) pos 0 found
      = stringRest start rest next 0 (c :: found) := by
  -- No character is a surrogate, so a unit that is one belongs to a pair.
  have valid : c.toNat < 0xD800 ∨ (0xDFFF < c.toNat ∧ c.toNat < 0x110000) := c.valid
  simp only [units]
  by_cases h : c.toNat < 0x10000
  case pos =>
    have hs : isHighSurrogate c.toNat = false := by
      simp [isHighSurrogate]
      omega
    have read := stringRest_escape pos start found (escape?_unit _ _ h hs hr) (by simp [hex_four])
    rw [charOfUnit_toNat] at read
    exact ⟨_, by simpa [h, numbered] using read⟩
  case neg =>
    have shigh : isHighSurrogate (0xD800 + (c.toNat - 0x10000) / 0x400) := by
      simp [isHighSurrogate]
      omega
    have slow : isLowSurrogate (0xDC00 + (c.toNat - 0x10000) % 0x400) := by
      simp [isLowSurrogate]
      omega
    have read := stringRest_escape pos start found
      (escape?_pair _ _ (by omega) (by omega) shigh slow hr) (by simp [hex_four, numbered])
    rw [charOfPair_units (Nat.not_lt.mp h)] at read
    exact ⟨_, by simpa [h, numbered] using read⟩

theorem stringRest_encodeChar (charset : Charset) (c : Char) (hr : rest ≠ []) :
    ∃ next, stringRest start (charset.encodeChar c ++ rest) pos 0 found
      = stringRest start rest next 0 (c :: found) := by
  unfold Charset.encodeChar
  split
  case h_8 hq hb _ _ _ _ _ =>
    split
    case isTrue ha =>
      exact ⟨_, stringRest_plain pos start found hq hb (charset.space_le_of_allows ha)⟩
    case isFalse => exact stringRest_units pos start found c hr
  all_goals exact ⟨_, stringRest_escape pos start found (escape?_short _ _ rfl) rfl⟩

theorem stringRest_encode (charset : Charset) (text rest : List Char) :
    ∃ next, stringRest start (text.flatMap charset.encodeChar ++ '"' :: rest) pos 0 found
      = .ok (String.ofList (found.reverse ++ text), ⟨rest, next⟩) := by
  induction text generalizing pos found
  case nil => exact ⟨pos + 1, by simp [stringRest]⟩
  case cons c text ih =>
    have more : text.flatMap charset.encodeChar ++ '"' :: rest ≠ [] := by simp
    have ⟨next, hc⟩ := stringRest_encodeChar pos start found charset c more
    have ⟨last, h⟩ := ih next (c :: found)
    exact ⟨last, by rw [List.flatMap_cons, List.append_assoc, hc, h]; simp⟩

end Proofread.Json
