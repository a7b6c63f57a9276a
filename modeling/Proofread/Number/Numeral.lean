import Proofread.Unicode.Basic

namespace Proofread.Numeral

-- A numeral with more digits is refused, however small its value.
def digitLimit : Nat := 4300

def value (digits : List Nat) : Nat :=
  digits.foldl (fun n d => 10 * n + d) 0

def asciiDigit? (c : Char) : Option Nat :=
  if '0' ≤ c ∧ c ≤ '9' then some (c.toNat - 0x30) else none

def digit? (c : Char) : Option Nat :=
  Unicode.digitValue? c.toNat

-- Digits with at most one underscore between two of them: at least one digit, and nothing else.
def digits? (digit? : Char → Option Nat) : List Char → Option (List Nat)
  | [] => none
  | [c] => (digit? c).map ([·])
  | c :: '_' :: rest =>
    match digit? c, digits? digit? rest with
    | some d, some ds => some (d :: ds)
    | _, _ => none
  | c :: rest =>
    match digit? c, digits? digit? rest with
    | some d, some ds => some (d :: ds)
    | _, _ => none

def sign : List Char → Bool × List Char
  | '-' :: rest => (true, rest)
  | '+' :: rest => (false, rest)
  | rest => (false, rest)

def strip (blank : Char → Bool) (text : List Char) : List Char :=
  ((text.dropWhile blank).reverse.dropWhile blank).reverse

def signed (negative : Bool) (digits : List Nat) : Int :=
  if negative then -(value digits : Int) else value digits

def read? (text : List Char) : Option Int :=
  let (negative, rest) := sign (strip (fun c => Unicode.isSpace c.toNat) text)
  match digits? digit? rest with
  | some digits => if digits.length ≤ digitLimit then some (signed negative digits) else none
  | none => none

def tooLongMessage (count : Nat) : String :=
  s!"Exceeds the limit ({toString digitLimit} digits) for integer string conversion: value has "
    ++ s!"{toString count} digits; use sys.set_int_max_str_digits() to increase the limit"

end Proofread.Numeral
