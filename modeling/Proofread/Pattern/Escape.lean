import Proofread.Pattern.Flags
import Proofread.Pattern.Source

namespace Proofread.Pattern

def isAsciiDigit (c : Char) : Bool :=
  decide ('0' ≤ c) && decide (c ≤ '9')

def isOctalDigit (c : Char) : Bool :=
  decide ('0' ≤ c) && decide (c ≤ '7')

def isAsciiLetter (c : Char) : Bool :=
  (decide ('a' ≤ c) && decide (c ≤ 'z')) || (decide ('A' ≤ c) && decide (c ≤ 'Z'))

def hexValue? (c : Char) : Option Nat :=
  if '0' ≤ c ∧ c ≤ '9' then some (c.toNat - 0x30)
  else if 'a' ≤ c ∧ c ≤ 'f' then some (c.toNat - 0x57)
  else if 'A' ≤ c ∧ c ≤ 'F' then some (c.toNat - 0x37)
  else none

def valueIn (base : Nat) (digits : List Char) : Nat :=
  digits.foldl (fun n c => base * n + (hexValue? c).getD 0) 0

namespace Escape

def control? : Char → Option Nat
  | 'a' => some 0x7
  | 'f' => some 0xC
  | 'n' => some 0xA
  | 'r' => some 0xD
  | 't' => some 0x9
  | 'v' => some 0xB
  | '\\' => some 0x5C
  | _ => none

def category? (ascii : Bool) : Char → Option CharSet.Category
  | 'd' => some ⟨.digit, ascii, false⟩
  | 'D' => some ⟨.digit, ascii, true⟩
  | 's' => some ⟨.space, ascii, false⟩
  | 'S' => some ⟨.space, ascii, true⟩
  | 'w' => some ⟨.word, ascii, false⟩
  | 'W' => some ⟨.word, ascii, true⟩
  | _ => none

def anchor? (ascii : Bool) : Char → Option Anchor
  | 'A' => some .textStart
  | 'Z' => some .textEnd
  | 'b' => some (.wordEdge ascii)
  | 'B' => some (.notWordEdge ascii)
  | _ => none

def hexWidth? : Char → Option Nat
  | 'x' => some 2
  | 'u' => some 4
  | 'U' => some 8
  | _ => none

def written (cs : List Char) : String :=
  String.ofList ('\\' :: cs)

-- Refuses the escape whose characters, the backslash left out, have just been taken.
def bad {α : Type} (fault : String → Fault) (cs : List Char) : Reader α :=
  Reader.fail (fault (written cs)) (cs.length + 1)

def readHex (c : Char) (width : Nat) : Reader Nat := do
  let digits ← Reader.takeWhile (fun d => (hexValue? d).isSome) width
  if digits.length < width then
    bad .incompleteEscape (c :: digits)
  else
    let point := valueIn 16 digits
    if point ≤ 0x10FFFF then return point else bad .badEscape (c :: digits)

def octal (cs : List Char) : Reader Nat :=
  let point := valueIn 8 cs
  if point ≤ 0xFF then return point else bad .octalTooLarge cs

-- The names of characters are left out of account, so that an escape by name is always refused.
def readNamed : Reader Nat := do
  if ← Reader.eat '\x7b' then
    let name ← Reader.takeUntil '\x7d' "character name"
    Reader.fail (.unknownCharacter name) (name.length + 4)
  else
    Reader.fail .missingBrace 0

def readPoint (c : Char) (otherwise : Reader Nat) : Reader Nat :=
  match control? c, hexWidth? c with
  | some point, _ => return point
  | none, some width => readHex c width
  | none, none =>
    if c = 'N' then readNamed
    else if isAsciiDigit c then otherwise
    else if isAsciiLetter c then bad .badEscape [c]
    else return c.toNat

end Escape

end Proofread.Pattern
