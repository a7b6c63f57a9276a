namespace Proofread

-- A finite number is `mantissa * 2 ^ exponent`, with its sign. One value may be given in two ways.
inductive Binary64
  | nan
  | infinite (negative : Bool)
  | finite (negative : Bool) (mantissa : Nat) (exponent : Int)
  deriving DecidableEq

namespace Binary64

def roundHalfEven (num den : Nat) : Nat :=
  let whole := num / den
  let rest := num % den
  if den < 2 * rest ∨ (den = 2 * rest ∧ whole % 2 = 1) then whole + 1 else whole

def scale (num den : Nat) : Int → Nat × Nat
  | .ofNat e => (num, den * Nat.pow 2 e)
  | .negSucc e => (num * Nat.pow 2 (e + 1), den)

-- The exponent that leaves 53 bits to the mantissa, or fewer for very small numbers.
def exponentFor (num den : Nat) : Int :=
  let low : Int := (Nat.log2 num : Int) - (Nat.log2 den : Int) - 53
  let (num, den) := scale num den low
  max (if den * Nat.pow 2 53 ≤ num then low + 1 else low) (-1074)

def ofFraction (negative : Bool) (num den : Nat) : Binary64 :=
  let exponent := exponentFor num den
  let (num, den) := scale num den exponent
  let mantissa := roundHalfEven num den
  if 971 < exponent ∨ (exponent = 971 ∧ mantissa = Nat.pow 2 53) then infinite negative
  else finite negative mantissa exponent

-- The decimal with these digits and this power of ten. Far out of range there is nothing to compute.
def ofDecimal (negative : Bool) (digits : List Nat) (exponent : Int) : Binary64 :=
  let digits := digits.dropWhile (· == 0)
  let magnitude := exponent + digits.length
  if digits.isEmpty ∨ magnitude < -330 then finite negative 0 0
  else if 310 < magnitude then infinite negative
  else
    let n := digits.foldl (fun n d => 10 * n + d) 0
    match exponent with
    | .ofNat e => ofFraction negative (n * Nat.pow 10 e) 1
    | .negSucc e => ofFraction negative n (Nat.pow 10 (e + 1))

def isFinite : Binary64 → Bool
  | finite .. => true
  | _ => false

def isZero : Binary64 → Bool
  | finite _ mantissa _ => mantissa == 0
  | _ => false

def toRat? : Binary64 → Option Rat
  | finite negative mantissa exponent =>
    let magnitude := mantissa * (2 : Rat) ^ exponent
    some (if negative then -magnitude else magnitude)
  | _ => none

def toInt? : Binary64 → Option Int
  | finite negative mantissa (.ofNat e) => some (signed negative (mantissa * Nat.pow 2 e))
  | finite negative mantissa (.negSucc e) =>
    let unit := Nat.pow 2 (e + 1)
    if mantissa % unit = 0 then some (signed negative (mantissa / unit)) else none
  | _ => none
where
  signed (negative : Bool) (n : Nat) : Int :=
    if negative then -(n : Int) else n

end Binary64

end Proofread
