import Proofread.Unicode.Printable

namespace Proofread.Text

def unifyNewlines : List Char → List Char
  | [] => []
  | '\r' :: '\n' :: rest => '\n' :: unifyNewlines rest
  | '\r' :: rest => '\n' :: unifyNewlines rest
  | c :: rest => c :: unifyNewlines rest

def occursIn (phrase : List Char) : List Char → Bool
  | [] => phrase.isEmpty
  | c :: rest => phrase.isPrefixOf (c :: rest) || occursIn phrase rest

theorem occursIn_iff {phrase text : List Char} : occursIn phrase text ↔ phrase <:+: text := by
  induction text with
  | nil => simp [occursIn]
  | cons c rest ih => simp [occursIn, ih, List.infix_cons_iff]

structure Place where
  offset : Nat
  line : Nat
  column : Nat
  deriving DecidableEq

namespace Place

def ofOffset (text : List Char) (offset : Nat) : Place where
  offset
  line := (text.take offset).count '\n' + 1
  column := ((text.take offset).reverse.takeWhile (· != '\n')).length + 1

end Place

def hexDigit (value : Nat) : Char :=
  if value < 10 then Char.ofNat (0x30 + value) else Char.ofNat (0x57 + value)

-- The last `width` hexadecimal digits of a number.
def hex : (width : Nat) → Nat → List Char
  | 0, _ => []
  | width + 1, n => hex width (n / 16) ++ [hexDigit (n % 16)]

namespace Quoted

def delimiter (text : List Char) : Char :=
  if text.contains '\'' && !text.contains '"' then '"' else '\''

def numbered (point : Nat) : List Char :=
  if point ≤ 0xFF then '\\' :: 'x' :: hex 2 point
  else if point ≤ 0xFFFF then '\\' :: 'u' :: hex 4 point
  else '\\' :: 'U' :: hex 8 point

def encodeChar (delimiter c : Char) : List Char :=
  if c == delimiter || c == '\\' then ['\\', c]
  else if c == '\t' then ['\\', 't']
  else if c == '\n' then ['\\', 'n']
  else if c == '\r' then ['\\', 'r']
  else if Unicode.isPrintable c.toNat then [c]
  else numbered c.toNat

end Quoted

def quoted (text : String) : String :=
  let mark := Quoted.delimiter text.toList
  String.ofList (mark :: text.toList.flatMap (Quoted.encodeChar mark) ++ [mark])

end Proofread.Text
