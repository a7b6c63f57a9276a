import Proofread.Json.Basic
import Proofread.Number.Shortest
import Proofread.Validation

namespace Proofread.Options

-- The keys of an object are text; those of a pair need not be.
inductive Key
  | text (text : String)
  | number (n : Int)
  | real (x : Binary64)
  | null
  deriving DecidableEq

abbrev Members := Table Key Json

namespace Key

def step : Key → Validation.Step
  | text name => .member name
  | number n => if -Int.pow 2 63 ≤ n ∧ n < Int.pow 2 63 then .item n else .member (toString n)
  | real x => .member x.text
  | null => .member "None"

def toRat? : Key → Option Rat
  | number n => some n
  | real x => x.toRat?
  | _ => none

-- Numbers are one key if they have one value, however they are given.
def same (key other : Key) : Bool :=
  key == other || (key.toRat?.isSome && key.toRat? == other.toRat?)

end Key

inductive ConversionError
  | notIterable (type : String)
  | notSequence (index : Nat)
  | wrongLength (index length : Nat)
  | unhashable (type : String)
  deriving DecidableEq

def ConversionError.message : ConversionError → String
  | notIterable type => "'" ++ type ++ "' object is not iterable"
  | notSequence index =>
    "cannot convert dictionary update sequence element #" ++ toString index ++ " to a sequence"
  | wrongLength index length =>
    "dictionary update sequence element #" ++ toString index ++ " has length " ++ toString length
      ++ "; 2 is required"
  | unhashable type => "unhashable type: '" ++ type ++ "'"

namespace Members

def ofObject (members : Json.Members) : Members :=
  members.map fun (name, value) => (.text name, value)

def key : Json → Except ConversionError Key
  | .string text => .ok (.text text)
  | .integer n => .ok (.number n)
  | .bool value => .ok (.number (if value then 1 else 0))
  | .null => .ok .null
  | .real x => .ok (.real x)
  | .array _ => .error (.unhashable "list")
  | .object _ => .error (.unhashable "dict")

def values? : Json → Option (List Json)
  | .array items => some items
  | .string text => some (text.toList.map fun c => .string c.toString)
  | .object members => some (members.map fun (name, _) => .string name)
  | _ => none

def pair (index : Nat) (item : Json) : Except ConversionError (Key × Json) :=
  match values? item with
  | none => .error (.notSequence index)
  | some [name, value] => (·, value) <$> key name
  | some values => .error (.wrongLength index values.length)

def pairs : (index : Nat) → List Json → Except ConversionError (List (Key × Json))
  | _, [] => .ok []
  | index, item :: rest => do return (← pair index item) :: (← pairs (index + 1) rest)

-- A later pair replaces the value of an earlier one with its key, and leaves the key as it is.
def insert (members : Members) (pair : Key × Json) : Members :=
  members.set (((members.map (·.1)).find? pair.1.same).getD pair.1) pair.2

def ofSequence (items : List Json) : Except ConversionError Members :=
  (List.foldl insert []) <$> pairs 0 items

-- Whatever is empty or zero counts as no options.
def ofJson : Json → Except ConversionError Members
  | .null => .ok []
  | .object members => .ok (ofObject members)
  | .array items => ofSequence items
  | .string text => ofSequence (text.toList.map fun c => .string c.toString)
  | .bool value => if value then .error (.notIterable "bool") else .ok []
  | .integer n => if n = 0 then .ok [] else .error (.notIterable "int")
  | .real x => if x.isZero then .ok [] else .error (.notIterable "float")

end Members

end Proofread.Options
