import Proofread.Json.Basic
import Proofread.Number.Numeral
import Proofread.Validation

namespace Proofread.Options

open Validation

-- Digits, behind which a point and zeros may stand, with blanks around.
def wholeNumber? (text : List Char) : Option (Bool × List Nat) :=
  let (negative, rest) := Numeral.sign (Numeral.strip (fun c => Unicode.isWhiteSpace c.toNat) text)
  let places := rest.dropWhile (· != '.')
  if places.isEmpty || (1 < places.length && places.tail.all (· == '0')) then
    (Numeral.digits? Numeral.asciiDigit? (rest.takeWhile (· != '.'))).map (negative, ·)
  else
    none

def ofReal (x : Binary64) : Except Cause Int :=
  if x.isFinite then
    match x.toInt? with
    | some n => if n.natAbs < Nat.pow 2 63 then .ok n else .error .integerTooLarge
    | none => .error .hasFraction
  else
    .error .notFinite

def readInteger : Json → Except Cause Int
  | .bool value => .ok (if value then 1 else 0)
  | .integer n => .ok n
  | .real x => ofReal x
  | .string text =>
    match wholeNumber? text.toList with
    | some (negative, digits) =>
      if digits.length ≤ Numeral.digitLimit then .ok (Numeral.signed negative digits)
      else .error .integerTooLarge
    | none => .error .unreadableInteger
  | _ => .error .notInteger

def readCount (value : Json) : Except Cause Nat :=
  match readInteger value with
  | .ok (.ofNat n) => .ok n
  | .ok (.negSucc _) => .error .negative
  | .error cause => .error cause

def falseWords : List String :=
  ["0", "off", "f", "false", "n", "no"]

def trueWords : List String :=
  ["1", "on", "t", "true", "y", "yes"]

def ofWord (text : String) : Except Cause Bool :=
  let word := String.ofList (text.toList.map Char.toLower)
  if falseWords.contains word then .ok false
  else if trueWords.contains word then .ok true
  else .error .unreadableBool

def ofInteger (n : Int) : Except Cause Bool :=
  if n = 0 then .ok false
  else if n = 1 then .ok true
  else .error .unreadableBool

def readBool : Json → Except Cause Bool
  | .bool value => .ok value
  | .integer n => if -Int.pow 2 63 ≤ n ∧ n < Int.pow 2 63 then ofInteger n else .error .notBool
  | .real x =>
    match ofReal x with
    | .ok n => ofInteger n
    | .error _ => .error .notBool
  | .string text => ofWord text
  | _ => .error .notBool

end Proofread.Options
