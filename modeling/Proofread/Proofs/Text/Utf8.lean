import Proofread.Text.Utf8

namespace Proofread.Text.Utf8

section

variable {b byte : UInt8} {rest : List UInt8} {pos first bits low high more : Nat}

theorem decodeFrom_ascii (h : b.toNat < 0x80) :
    decodeFrom (b :: rest) pos .between
      = (Char.ofNat b.toNat :: ·) <$> decodeFrom rest (pos + 1) .between := by
  simp [decodeFrom, h]

theorem decodeFrom_lead (h : lead? b.toNat = some ⟨bits, low, high, more⟩) :
    decodeFrom (b :: rest) pos .between
      = decodeFrom rest (pos + 1) (.inside b pos bits low high more) := by
  have : ¬b.toNat < 0x80 := by
    intro hb
    simp only [lead?] at h
    repeat rw [if_neg (by omega)] at h
    simp at h
  simp [decodeFrom, this, h]

theorem decodeFrom_last (h : low ≤ b.toNat ∧ b.toNat ≤ high) :
    decodeFrom (b :: rest) pos (.inside byte first bits low high 0)
      = (Char.ofNat (0x40 * bits + (b.toNat - 0x80)) :: ·) <$> decodeFrom rest (pos + 1) .between := by
  simp [decodeFrom, h]

theorem decodeFrom_more (h : low ≤ b.toNat ∧ b.toNat ≤ high) :
    decodeFrom (b :: rest) pos (.inside byte first bits low high (more + 1))
      = decodeFrom rest (pos + 1)
          (.inside byte first (0x40 * bits + (b.toNat - 0x80)) 0x80 0xBF more) := by
  simp [decodeFrom, h]

end

theorem toNat_ofNat_add {n base : Nat} (h : n + base < 256) :
    (UInt8.ofNat (n + base)).toNat = n + base := by
  rw [UInt8.toNat_ofNat', Nat.mod_eq_of_lt h]

theorem lead?_two {v : Nat} (hl : 0x80 ≤ v) (hu : v ≤ 0x7FF) :
    lead? (v / 64 % 0x20 + 0xC0) = some ⟨v / 64, 0x80, 0xBF, 0⟩ := by
  rw [lead?, if_pos (by omega), show v / 64 % 0x20 + 0xC0 - 0xC0 = v / 64 by omega]

-- The second byte is confined after two lead bytes: too short forms and surrogates stay out.
theorem lead?_three {v : Nat} (hl : 0x800 ≤ v) (hu : v ≤ 0xFFFF) (hs : v < 0xD800 ∨ 0xDFFF < v) :
    ∃ low high, lead? (v / 4096 % 0x10 + 0xE0) = some ⟨v / 4096, low, high, 1⟩ ∧
      low ≤ v / 64 % 0x40 + 0x80 ∧ v / 64 % 0x40 + 0x80 ≤ high := by
  simp only [lead?]
  rw [if_neg (by omega)]
  by_cases h0 : v / 4096 = 0
  case pos => exact ⟨0xA0, 0xBF, by rw [if_pos (by omega), h0], by omega, by omega⟩
  case neg =>
    rw [if_neg (by omega)]
    by_cases hd : v / 4096 = 0xD
    case pos => exact ⟨0x80, 0x9F, by rw [if_pos (by omega), hd], by omega, by omega⟩
    case neg =>
      refine ⟨0x80, 0xBF, ?_, by omega, by omega⟩
      rw [if_neg (by omega), if_pos (by omega),
        show v / 4096 % 0x10 + 0xE0 - 0xE0 = v / 4096 by omega]

theorem lead?_four {v : Nat} (hl : 0x10000 ≤ v) (hu : v ≤ 0x10FFFF) :
    ∃ low high, lead? (v / 262144 % 0x08 + 0xF0) = some ⟨v / 262144, low, high, 2⟩ ∧
      low ≤ v / 4096 % 0x40 + 0x80 ∧ v / 4096 % 0x40 + 0x80 ≤ high := by
  simp only [lead?]
  rw [if_neg (by omega), if_neg (by omega), if_neg (by omega), if_neg (by omega)]
  by_cases h0 : v / 262144 = 0
  case pos => exact ⟨0x90, 0xBF, by rw [if_pos (by omega), h0], by omega, by omega⟩
  case neg =>
    rw [if_neg (by omega)]
    by_cases h4 : v / 262144 = 4
    case pos =>
      exact ⟨0x80, 0x8F, by rw [if_neg (by omega), if_pos (by omega), h4], by omega, by omega⟩
    case neg =>
      refine ⟨0x80, 0xBF, ?_, by omega, by omega⟩
      rw [if_pos (by omega), show v / 262144 % 0x08 + 0xF0 - 0xF0 = v / 262144 by omega]

def following (n : Nat) : UInt8 :=
  UInt8.ofNat (n % 0x40 + 0x80)

theorem toNat_following (n : Nat) : (following n).toNat = n % 0x40 + 0x80 :=
  toNat_ofNat_add (by omega)

theorem following_range (n : Nat) : 0x80 ≤ (following n).toNat ∧ (following n).toNat ≤ 0xBF := by
  rw [toNat_following]
  omega

section

variable {v : Nat} (rest : List UInt8) (pos : Nat)

theorem decodeFrom_one (h : v ≤ 0x7F) :
    decodeFrom (UInt8.ofNat v :: rest) pos .between
      = (Char.ofNat v :: ·) <$> decodeFrom rest (pos + 1) .between := by
  have hv : (UInt8.ofNat v).toNat = v := by
    rw [UInt8.toNat_ofNat', Nat.mod_eq_of_lt (by omega)]
  rw [decodeFrom_ascii (by omega), hv]

theorem decodeFrom_two (hl : 0x80 ≤ v) (hu : v ≤ 0x7FF) :
    decodeFrom (UInt8.ofNat (v / 64 % 0x20 + 0xC0) :: following v :: rest) pos .between
      = (Char.ofNat v :: ·) <$> decodeFrom rest (pos + 2) .between := by
  have lead := lead?_two hl hu
  rw [← toNat_ofNat_add (by omega)] at lead
  rw [decodeFrom_lead lead, decodeFrom_last (following_range _), toNat_following]
  rw [show 0x40 * (v / 64) + (v % 0x40 + 0x80 - 0x80) = v by omega]

theorem decodeFrom_three (hl : 0x800 ≤ v) (hu : v ≤ 0xFFFF) (hs : v < 0xD800 ∨ 0xDFFF < v) :
    decodeFrom (UInt8.ofNat (v / 4096 % 0x10 + 0xE0) :: following (v / 64) :: following v :: rest)
        pos .between
      = (Char.ofNat v :: ·) <$> decodeFrom rest (pos + 3) .between := by
  have ⟨low, high, lead, range⟩ := lead?_three hl hu hs
  rw [← toNat_ofNat_add (by omega)] at lead
  rw [← toNat_following] at range
  rw [decodeFrom_lead lead, decodeFrom_more range, decodeFrom_last (following_range _),
    toNat_following, toNat_following]
  rw [show 0x40 * (0x40 * (v / 4096) + (v / 64 % 0x40 + 0x80 - 0x80))
    + (v % 0x40 + 0x80 - 0x80) = v by omega]

theorem decodeFrom_four (hl : 0x10000 ≤ v) (hu : v ≤ 0x10FFFF) :
    decodeFrom (UInt8.ofNat (v / 262144 % 0x08 + 0xF0) :: following (v / 4096) ::
        following (v / 64) :: following v :: rest) pos .between
      = (Char.ofNat v :: ·) <$> decodeFrom rest (pos + 4) .between := by
  have ⟨low, high, lead, range⟩ := lead?_four hl hu
  rw [← toNat_ofNat_add (by omega)] at lead
  rw [← toNat_following] at range
  rw [decodeFrom_lead lead, decodeFrom_more range, decodeFrom_more (following_range _),
    decodeFrom_last (following_range _), toNat_following, toNat_following, toNat_following]
  rw [show 0x40 * (0x40 * (0x40 * (v / 262144) + (v / 4096 % 0x40 + 0x80 - 0x80))
    + (v / 64 % 0x40 + 0x80 - 0x80)) + (v % 0x40 + 0x80 - 0x80) = v by omega]

theorem decodeFrom_char (c : Char) :
    ∃ next, decodeFrom (String.utf8EncodeChar c ++ rest) pos .between
      = (c :: ·) <$> decodeFrom rest next .between := by
  have hc : Char.ofNat c.val.toNat = c := Char.ofNat_toNat c
  have hv : c.val.toNat < 0xD800 ∨ (0xDFFF < c.val.toNat ∧ c.val.toNat < 0x110000) := c.valid
  simp only [String.utf8EncodeChar]
  split
  case isTrue h1 => exact ⟨_, hc ▸ decodeFrom_one rest pos h1⟩
  case isFalse h1 =>
    split
    case isTrue h2 => exact ⟨_, hc ▸ decodeFrom_two rest pos (by omega) h2⟩
    case isFalse h2 =>
      split
      case isTrue h3  => exact ⟨_, hc ▸ decodeFrom_three rest pos (by omega) h3 (by omega)⟩
      case isFalse h3 => exact ⟨_, hc ▸ decodeFrom_four rest pos (by omega) (by omega)⟩

end

theorem decode_encode (text : List Char) : decode (encode text) = .ok text := by
  suffices go : ∀ pos, decodeFrom (encode text) pos .between = .ok text from go 0
  induction text <;> intro pos
  case nil => rfl
  case cons c rest ih =>
    have ⟨next, h⟩ := decodeFrom_char (encode rest) pos c
    rw [encode, List.flatMap_cons, ← encode, h, ih]
    rfl

end Proofread.Text.Utf8
