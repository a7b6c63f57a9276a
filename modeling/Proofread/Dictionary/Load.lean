import Proofread.Dictionary.Basic
import Proofread.Files.Store
import Proofread.Json.Reader
import Proofread.Pass
import Proofread.Pattern.Reading
import Proofread.Text.Utf8
import Proofread.Validation

namespace Proofread.Dictionary

inductive Row
  | list (cells : List Json)
  | values (incorrect correct : Json)
  | record (value : Json)

inductive Error
  | cellCount (count : Nat)
  | invalid (report : Invalid)
  | malformed (phrase : String) (error : Pattern.Error)
  deriving DecidableEq

def Error.message : Error → String
  | cellCount count =>
    if count < 2 then "not enough values to unpack (expected 2, got " ++ toString count ++ ")"
    else "too many values to unpack (expected 2)"
  | invalid report => report.message
  | malformed phrase error => error.message phrase

structure Pair where
  incorrect : String
  correct : String
  deriving DecidableEq

namespace Pair

open Validation

def textMember (name : String) (value : Option Json) : Checked String :=
  match value with
  | some (.string text) => .ok text
  | some _ => .error [⟨.notText, [.member name]⟩]
  | none => .error [⟨.missing, [.member name]⟩]

def ofMembers (incorrect correct : Option Json) : Checked Pair :=
  match textMember "incorrect" incorrect, textMember "correct" correct with
  | .ok incorrect, .ok correct => .ok ⟨incorrect, correct⟩
  | first, second => .error (first.issues ++ second.issues)

-- Members with other names are ignored.
def ofJson : Json → Checked Pair
  | .object members => ofMembers (Table.get? members "incorrect") (Table.get? members "correct")
  | _ => .error [⟨.notObject .pair, []⟩]

end Pair

def Entry.ofPair (pair : Pair) : Except Error Entry :=
  match Pattern.ofString? pair.incorrect with
  | .ok pattern => .ok ⟨pair.incorrect, pair.correct, pattern⟩
  | .error error => .error (.malformed pair.incorrect error)

namespace Row

def pair : Row → Except Error Pair
  | list [incorrect, correct] => checked (Pair.ofMembers (some incorrect) (some correct))
  | list cells => .error (.cellCount cells.length)
  | values incorrect correct => checked (Pair.ofMembers (some incorrect) (some correct))
  | record value => checked (Pair.ofJson value)
where
  checked : Validation.Checked Pair → Except Error Pair
    | .ok pair => .ok pair
    | .error issues => .error (.invalid ⟨.pair, issues⟩)

def entry (row : Row) : Except Error Entry :=
  row.pair.bind Entry.ofPair

end Row

def ofRows : List Row → Except Error Dictionary
  | [] => .ok []
  | row :: rows => do return (← row.entry) :: (← ofRows rows)

-- All pairs are known to be valid here, so only their phrases can fail.
def ofPairs : List Pair → Except Error Dictionary
  | [] => .ok []
  | pair :: pairs => do return (← Entry.ofPair pair) :: (← ofPairs pairs)

-- The rows of a document: all are checked before the first phrase is read.
def ofJson (value : Json) : Except Error Dictionary :=
  match value with
  | .array items =>
    match Validation.checkItems Pair.ofJson items with
    | .ok pairs => ofPairs pairs
    | .error issues => .error (.invalid ⟨.pairs, issues⟩)
  | _ => .error (.invalid ⟨.pairs, [⟨.notList, []⟩]⟩)

inductive LoadError
  | unreadable (error : Files.Error)
  | undecodable (error : Text.Utf8.Error)
  | notJson (error : Json.Error)
  | badRows (error : Error)
  deriving DecidableEq

def LoadError.message : LoadError → String
  | unreadable error => error.message
  | undecodable error => error.message
  | notJson error => error.message
  | badRows error => error.message

def ofContent (content : Files.Content) : Except LoadError Dictionary := do
  let text ← (Text.Utf8.decode content).mapError .undecodable
  let value ← (Json.ofText? (Text.unifyNewlines text)).mapError .notJson
  (ofJson value).mapError .badRows

structure Loaded where
  dictionary : Dictionary
  log : List LogEntry

def load (store : Files.Store) (path : Files.Path) : Except LoadError Loaded := do
  let content ← (store.read path).mapError .unreadable
  let dictionary ← ofContent content
  return ⟨dictionary, [.dictionaryLoaded dictionary.length path.toString]⟩

end Proofread.Dictionary
