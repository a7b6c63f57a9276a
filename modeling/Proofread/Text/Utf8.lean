import Proofread.Text

namespace Proofread.Text.Utf8

def encode (text : List Char) : List UInt8 :=
  text.flatMap String.utf8EncodeChar

inductive Reason
  | start
  | continuation
  | truncated
  deriving DecidableEq

-- The bytes from `first` to `last`, both included, of which the first is `byte`.
structure Error where
  byte : UInt8
  first : Nat
  last : Nat
  reason : Reason
  deriving DecidableEq

namespace Error

def reasonText : Reason → String
  | .start => "invalid start byte"
  | .continuation => "invalid continuation byte"
  | .truncated => "unexpected end of data"

def message (error : Error) : String :=
  "'utf-8' codec can't decode " ++
    (if error.first = error.last then
      "byte 0x" ++ String.ofList (hex 2 error.byte.toNat) ++ " in position " ++ toString error.first
    else
      "bytes in position " ++ toString error.first ++ "-" ++ toString error.last) ++
    ": " ++ reasonText error.reason

end Error

-- How a character goes on after its first byte: the bits that byte gives, the range of the second
-- byte, and how many bytes follow that one.
structure Lead where
  bits : Nat
  low : Nat
  high : Nat
  more : Nat

def lead? (b : Nat) : Option Lead :=
  if 0xC2 ≤ b ∧ b ≤ 0xDF then some ⟨b - 0xC0, 0x80, 0xBF, 0⟩
  else if b = 0xE0 then some ⟨0, 0xA0, 0xBF, 1⟩
  else if b = 0xED then some ⟨0xD, 0x80, 0x9F, 1⟩
  else if 0xE1 ≤ b ∧ b ≤ 0xEF then some ⟨b - 0xE0, 0x80, 0xBF, 1⟩
  else if b = 0xF0 then some ⟨0, 0x90, 0xBF, 2⟩
  else if 0xF1 ≤ b ∧ b ≤ 0xF3 then some ⟨b - 0xF0, 0x80, 0xBF, 2⟩
  else if b = 0xF4 then some ⟨4, 0x80, 0x8F, 2⟩
  else none

-- Where the decoder stands: between two characters, or inside one that began at `first` with `byte`,
-- still short of one byte in the given range and then of `more` others.
inductive State
  | between
  | inside (byte : UInt8) (first bits low high more : Nat)

def decodeFrom : List UInt8 → (pos : Nat) → State → Except Error (List Char)
  | [], _, .between => .ok []
  | [], pos, .inside byte first .. => .error ⟨byte, first, pos - 1, .truncated⟩
  | b :: rest, pos, .between =>
    if b.toNat < 0x80 then
      (Char.ofNat b.toNat :: ·) <$> decodeFrom rest (pos + 1) .between
    else
      match lead? b.toNat with
      | some lead =>
        decodeFrom rest (pos + 1) (.inside b pos lead.bits lead.low lead.high lead.more)
      | none => .error ⟨b, pos, pos, .start⟩
  | b :: rest, pos, .inside byte first bits low high more =>
    if low ≤ b.toNat ∧ b.toNat ≤ high then
      let bits := 0x40 * bits + (b.toNat - 0x80)
      match more with
      | 0 => (Char.ofNat bits :: ·) <$> decodeFrom rest (pos + 1) .between
      | more + 1 => decodeFrom rest (pos + 1) (.inside byte first bits 0x80 0xBF more)
    else
      .error ⟨byte, first, pos - 1, .continuation⟩

def decode (bytes : List UInt8) : Except Error (List Char) :=
  decodeFrom bytes 0 .between

end Proofread.Text.Utf8
