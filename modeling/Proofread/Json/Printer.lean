import Proofread.Json.Basic
import Proofread.Text

namespace Proofread.Json

inductive Charset
  | ascii
  | unicode
  deriving DecidableEq

def numbered (unit : Nat) : List Char :=
  '\\' :: 'u' :: Text.hex 4 unit

def units (c : Char) : List Nat :=
  let point := c.toNat
  if point < 0x10000 then [point]
  else [0xD800 + (point - 0x10000) / 0x400, 0xDC00 + (point - 0x10000) % 0x400]

namespace Charset

def allows : Charset → Char → Bool
  | ascii, c => decide (' ' ≤ c) && decide (c ≤ '~')
  | unicode, c => decide (' ' ≤ c)

def encodeChar (charset : Charset) (c : Char) : List Char :=
  match c with
  | '"' => ['\\', '"']
  | '\\' => ['\\', '\\']
  | '\x08' => ['\\', 'b']
  | '\x0c' => ['\\', 'f']
  | '\n' => ['\\', 'n']
  | '\r' => ['\\', 'r']
  | '\t' => ['\\', 't']
  | _ => if charset.allows c then [c] else (units c).flatMap numbered

def encode (charset : Charset) (text : String) : List Char :=
  '"' :: text.toList.flatMap charset.encodeChar ++ ['"']

end Charset

-- A power of two below one is written as a power of ten, exactly.
def realToken : Binary64 → String
  | .nan => "NaN"
  | .infinite negative => if negative then "-Infinity" else "Infinity"
  | .finite negative mantissa exponent =>
    (if negative then "-" else "") ++
      match exponent with
      | .ofNat e => toString (mantissa * Nat.pow 2 e) ++ ".0"
      | .negSucc e => toString (mantissa * Nat.pow 5 (e + 1)) ++ "e-" ++ toString (e + 1)

mutual

def tokens (charset : Charset) : Json → List (List Char)
  | null => ["null".toList]
  | bool true => ["true".toList]
  | bool false => ["false".toList]
  | integer n => [(toString n).toList]
  | real x => [(realToken x).toList]
  | string text => [charset.encode text]
  | array [] => [['['], [']']]
  | array (item :: items) => ['['] :: (tokens charset item ++ itemTokens charset items)
  | object [] => [['\x7b'], ['\x7d']]
  | object ((key, value) :: members) =>
    ['\x7b'] :: charset.encode key :: [':'] ::
      (tokens charset value ++ memberTokens charset members)

def itemTokens (charset : Charset) : List Json → List (List Char)
  | [] => [[']']]
  | item :: items => [','] :: (tokens charset item ++ itemTokens charset items)

def memberTokens (charset : Charset) : List (String × Json) → List (List Char)
  | [] => [['\x7d']]
  | (key, value) :: members =>
    [','] :: charset.encode key :: [':'] ::
      (tokens charset value ++ memberTokens charset members)

end

def render (charset : Charset) (value : Json) : String :=
  String.ofList (tokens charset value).flatten

end Proofread.Json
