import Proofread.Json.Basic
import Proofread.Text

namespace Proofread.Json

structure Cursor where
  rest : List Char
  pos : Nat
  deriving DecidableEq

namespace Cursor

def drop (cursor : Cursor) (n : Nat) : Cursor :=
  ⟨cursor.rest.drop n, cursor.pos + n⟩

end Cursor

-- Where reading stops; the offset becomes a place once the whole document is at hand.
inductive Stop
  | at (fault : Fault) (offset : Nat)
  | tooLong (digits : Nat)
  deriving DecidableEq

def isBlank (c : Char) : Bool :=
  c == ' ' || c == '\t' || c == '\n' || c == '\r'

def skipBlanks : List Char → Nat → Cursor
  | [], pos => ⟨[], pos⟩
  | c :: rest, pos => if isBlank c then skipBlanks rest (pos + 1) else ⟨c :: rest, pos⟩

def Cursor.skipBlanks (cursor : Cursor) : Cursor :=
  Json.skipBlanks cursor.rest cursor.pos

def hexValue? (c : Char) : Option Nat :=
  if '0' ≤ c ∧ c ≤ '9' then some (c.toNat - 0x30)
  else if 'a' ≤ c ∧ c ≤ 'f' then some (c.toNat - 0x57)
  else if 'A' ≤ c ∧ c ≤ 'F' then some (c.toNat - 0x37)
  else none

def hex4? (a b c d : Char) : Option Nat := do
  return 0x1000 * (← hexValue? a) + 0x100 * (← hexValue? b) + 0x10 * (← hexValue? c)
    + (← hexValue? d)

def shortEscape? : Char → Option Char
  | '"' => some '"'
  | '\\' => some '\\'
  | '/' => some '/'
  | 'b' => some '\x08'
  | 'f' => some '\x0c'
  | 'n' => some '\n'
  | 'r' => some '\r'
  | 't' => some '\t'
  | _ => none

def isHighSurrogate (unit : Nat) : Bool :=
  decide (0xD800 ≤ unit) && decide (unit ≤ 0xDBFF)

def isLowSurrogate (unit : Nat) : Bool :=
  decide (0xDC00 ≤ unit) && decide (unit ≤ 0xDFFF)

-- Texts with a surrogate that stands alone are left out of account. It is read as U+FFFD.
def charOfUnit (unit : Nat) : Char :=
  if h : unit.isValidChar then Char.ofNatAux unit h else '\ufffd'

def charOfPair (high low : Nat) : Char :=
  charOfUnit (0x10000 + 0x400 * (high - 0xD800) + (low - 0xDC00))

-- What the characters after a backslash stand for, and how many they are. The four digits of a
-- number must have something behind them, as the string is not closed yet. A number that can begin
-- a pair looks at the next one, which must then be well formed.
def escape? (rest : List Char) (pos start : Nat) : Except Stop (Char × Nat) :=
  match rest with
  | [] => .error (.at .unterminatedString start)
  | 'u' :: a :: b :: c :: d :: rest =>
    if rest.isEmpty then
      .error (.at .badUnicodeEscape pos)
    else
      match hex4? a b c d with
      | none => .error (.at .badUnicodeEscape pos)
      | some high =>
        match rest with
        | '\\' :: 'u' :: e :: f :: g :: h :: _ :: _ =>
          if isHighSurrogate high then
            match hex4? e f g h with
            | none => .error (.at .badUnicodeEscape (pos + 6))
            | some low =>
              if isLowSurrogate low then .ok (charOfPair high low, 11)
              else .ok (charOfUnit high, 5)
          else
            .ok (charOfUnit high, 5)
        | _ => .ok (charOfUnit high, 5)
  | 'u' :: _ => .error (.at .badUnicodeEscape pos)
  | c :: _ =>
    match shortEscape? c with
    | some c => .ok (c, 1)
    | none => .error (.at .badEscape (pos - 1))

-- The characters up to the closing quote, latest first. `start` is the place of the opening one;
-- `skip` counts characters that an escape has used up.
def stringRest (start : Nat) : List Char → (pos skip : Nat) → List Char → Except Stop (String × Cursor)
  | [], _, _, _ => .error (.at .unterminatedString start)
  | _ :: rest, pos, skip + 1, found => stringRest start rest (pos + 1) skip found
  | c :: rest, pos, 0, found =>
    if c = '"' then
      .ok (String.ofList found.reverse, ⟨rest, pos + 1⟩)
    else if c = '\\' then
      match escape? rest (pos + 1) start with
      | .ok (c, used) => stringRest start rest (pos + 1) used (c :: found)
      | .error stop => .error stop
    else if c.toNat < 0x20 then
      .error (.at .controlCharacter pos)
    else
      stringRest start rest (pos + 1) 0 (c :: found)

def isDigit (c : Char) : Bool :=
  decide ('0' ≤ c) && decide (c ≤ '9')

def digits (text : List Char) : List Nat × List Char :=
  ((text.takeWhile isDigit).map (·.toNat - 0x30), text.dropWhile isDigit)

-- A number has no leading zeros: after a zero its whole part ends.
def wholePart? : List Char → Option (List Nat × List Char)
  | '0' :: rest => some ([0], rest)
  | c :: rest => if isDigit c then some (digits (c :: rest)) else none
  | [] => none

-- A point belongs to the number only if a digit follows.
def fraction? : List Char → Option (List Nat × List Char)
  | '.' :: c :: rest => if isDigit c then some (digits (c :: rest)) else none
  | _ => none

def exponent? : List Char → Option (Int × List Char)
  | c :: rest =>
    if c = 'e' ∨ c = 'E' then
      let (negative, rest) := Numeral.sign rest
      match digits rest with
      | ([], _) => none
      | (ds, rest) => some (Numeral.signed negative ds, rest)
    else
      none
  | [] => none

def number? (negative : Bool) (text : List Char) : Option (Except Nat Json × List Char) := do
  let (whole, rest) ← wholePart? text
  match fraction? rest, exponent? ((fraction? rest).elim rest (·.2)) with
  | none, none =>
    if Numeral.digitLimit < whole.length then
      return (.error whole.length, rest)
    else
      return (.ok (integer (Numeral.signed negative whole)), rest)
  | some (part, rest), none =>
    return (.ok (real (.ofDecimal negative (whole ++ part) (-part.length))), rest)
  | none, some (power, rest) =>
    return (.ok (real (.ofDecimal negative whole power)), rest)
  | some (part, _), some (power, rest) =>
    return (.ok (real (.ofDecimal negative (whole ++ part) (power - part.length))), rest)

def readNumber (cursor : Cursor) : Except Stop (Json × Cursor) :=
  let (negative, text) :=
    match cursor.rest with
    | '-' :: text => (true, text)
    | text => (false, text)
  match number? negative text with
  | none => .error (.at .valueExpected cursor.pos)
  | some (.error count, _) => .error (.tooLong count)
  | some (.ok value, rest) => .ok (value, ⟨rest, cursor.pos + (cursor.rest.length - rest.length)⟩)

def names : List (List Char × Json) :=
  [("null".toList, null), ("true".toList, bool true), ("false".toList, bool false),
   ("NaN".toList, real .nan), ("Infinity".toList, real (.infinite false)),
   ("-Infinity".toList, real (.infinite true))]

def named? (cursor : Cursor) : Option (Json × Cursor) :=
  (names.find? fun entry => entry.1.isPrefixOf cursor.rest).map fun (name, value) =>
    (value, cursor.drop name.length)

mutual

-- Every value has a character of its own, so `fuel` need not exceed twice the characters left.
def readValue : (fuel : Nat) → Cursor → Except Stop (Json × Cursor)
  | 0, cursor => .error (.at .valueExpected cursor.pos)
  | fuel + 1, cursor =>
    match cursor.rest with
    | '"' :: rest => do
      let (text, cursor) ← stringRest cursor.pos rest (cursor.pos + 1) 0 []
      return (string text, cursor)
    | '[' :: rest =>
      let inside := skipBlanks rest (cursor.pos + 1)
      match inside.rest with
      | ']' :: _ => .ok (array [], inside.drop 1)
      | _ => readItems fuel [] inside
    | '\x7b' :: rest =>
      let inside := skipBlanks rest (cursor.pos + 1)
      match inside.rest with
      | '\x7d' :: _ => .ok (object [], inside.drop 1)
      | _ => readMembers fuel [] inside
    | _ =>
      match named? cursor with
      | some found => .ok found
      | none => readNumber cursor

def readItems : (fuel : Nat) → List Json → Cursor → Except Stop (Json × Cursor)
  | 0, _, cursor => .error (.at .valueExpected cursor.pos)
  | fuel + 1, found, cursor => do
    let (item, cursor) ← readValue fuel cursor
    let cursor := cursor.skipBlanks
    match cursor.rest with
    | ']' :: _ => return (array (item :: found).reverse, cursor.drop 1)
    | ',' :: _ => readItems fuel (item :: found) (cursor.drop 1).skipBlanks
    | _ => .error (.at .commaExpected cursor.pos)

def readMembers : (fuel : Nat) → List (String × Json) → Cursor → Except Stop (Json × Cursor)
  | 0, _, cursor => .error (.at .keyExpected cursor.pos)
  | fuel + 1, found, cursor =>
    match cursor.rest with
    | '"' :: rest => do
      let (key, cursor) ← stringRest cursor.pos rest (cursor.pos + 1) 0 []
      let cursor := cursor.skipBlanks
      match cursor.rest with
      | ':' :: _ =>
        let (value, cursor) ← readValue fuel (cursor.drop 1).skipBlanks
        let found := (key, value) :: found
        let cursor := cursor.skipBlanks
        match cursor.rest with
        | '\x7d' :: _ => return (object (Table.ofPairs found.reverse), cursor.drop 1)
        | ',' :: _ => readMembers fuel found (cursor.drop 1).skipBlanks
        | _ => .error (.at .commaExpected cursor.pos)
      | _ => .error (.at .colonExpected cursor.pos)
    | _ => .error (.at .keyExpected cursor.pos)

end

def readDocument (text : List Char) : Except Stop Json := do
  match text with
  | '\ufeff' :: _ => .error (.at .byteOrderMark 0)
  | _ =>
    let (value, cursor) ← readValue (2 * text.length) (skipBlanks text 0)
    let cursor := cursor.skipBlanks
    if cursor.rest.isEmpty then return value else .error (.at .extraData cursor.pos)

def ofText? (text : List Char) : Except Error Json :=
  (readDocument text).mapError fun
    | .at fault offset => .malformed fault (.ofOffset text offset)
    | .tooLong digits => .numeralTooLong digits

end Proofread.Json
