import Proofread.Number.Binary64

namespace Proofread.Binary64

def ofRat (x : Rat) : Binary64 :=
  ofFraction (decide (x < 0)) x.num.natAbs x.den

-- The whole numbers below and above, the nearer one first. In the middle the even one is.
def around (x : Rat) : List Nat :=
  let low := x.floor.toNat
  let rest := x - low
  if rest < 1 / 2 ∨ (rest = 1 / 2 ∧ low % 2 = 0) then [low, low + 1] else [low + 1, low]

-- The decimal with the fewest digits that is read as this positive number: a multiple of a power of
-- ten. It has the fewest digits if the power is the greatest that will do. No two numbers are so
-- close that 10 ^ -324 will not.
def shortest? (x : Rat) : Option (Nat × Int) :=
  (List.range 634).findSome? fun (i : Nat) =>
    let exponent := 309 - (i : Int)
    let unit := (10 : Rat) ^ exponent
    let reads (n : Nat) := (ofRat (n * unit)).toRat? == some x
    ((around (x / unit)).find? reads).map (·, exponent)

theorem toRat?_of_shortest? {x : Rat} {n : Nat} {exponent : Int}
    (h : shortest? x = some (n, exponent)) :
    (ofRat (n * (10 : Rat) ^ exponent)).toRat? = some x := by
  have ⟨_, _, found⟩ := List.exists_of_findSome?_eq_some h
  have ⟨_, hn, he⟩ := Option.map_eq_some_iff.mp found
  cases he
  simpa using List.find?_some hn

def decimalText (n : Nat) (exponent : Int) : String :=
  let digits := toString n
  let point : Int := digits.length + exponent
  if point ≤ -4 ∨ 16 < point then
    let power := toString (point - 1).natAbs
    (if digits.length = 1 then digits else divided digits 1)
      ++ (if point < 1 then "e-" else "e+") ++ zeros (2 - power.length) ++ power
  else if point ≤ 0 then
    "0." ++ zeros (-point) ++ digits
  else if exponent < 0 then
    divided digits point.toNat
  else
    digits ++ zeros exponent ++ ".0"
where
  zeros (count : Int) : String :=
    String.ofList (List.replicate count.toNat '0')
  divided (digits : String) (place : Nat) : String :=
    String.ofList (digits.toList.take place) ++ "." ++ String.ofList (digits.toList.drop place)

def text : Binary64 → String
  | nan => "nan"
  | infinite negative => sign negative ++ "inf"
  | finite negative mantissa exponent =>
    let (n, exponent) := (shortest? (mantissa * (2 : Rat) ^ exponent)).getD (0, 0)
    sign negative ++ if mantissa = 0 then "0.0" else decimalText n exponent
where
  sign (negative : Bool) : String :=
    if negative then "-" else ""

end Proofread.Binary64
