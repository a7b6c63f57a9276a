import Proofread.Dictionary.Basic
import Proofread.Dictionary.Load
import Proofread.Options.Members
import Proofread.Options.Scalar
import Proofread.Pass

namespace Proofread

structure Options where
  allows : AllowList := []
  dictionaryPath : Option Files.Path := none
  significantFigures : Nat := 2
  integerDigits : Nat := 2
  punctuation : Bool := false
  deriving DecidableEq

namespace Options

open Validation

def ofCause {α : Type} : Except Cause α → Checked α
  | .ok value => .ok value
  | .error cause => .error [⟨cause, []⟩]

def readText : Json → Checked String
  | .string text => .ok text
  | _ => .error [⟨.notText, []⟩]

def readAllows : Json → Checked AllowList
  | .array items => checkItems readText items
  | _ => .error [⟨.notList, []⟩]

def readPath : Json → Checked (Option Files.Path)
  | .null => .ok none
  | .string text => .ok (some (.ofString text))
  | _ => .error [⟨.notPath, []⟩]

def allowsName : String := "allows"
def dictionaryPathName : String := "dictionary_path"
def significantFiguresName : String := "max_uncertainty_significant_figures"
def integerDigitsName : String := "max_integer_digits"
def punctuationName : String := "italic_include_punctuation"

def names : List String :=
  [allowsName, dictionaryPathName, significantFiguresName, integerDigitsName, punctuationName]

def member {α : Type} (members : Members) (name : String) (default : α) (read : Json → Checked α) :
    Checked α :=
  match members.get? (.text name) with
  | some value => (read value).under (.member name)
  | none => .ok default

def unknown? : Key → Option Issue
  | .text name => if names.contains name then none else some ⟨.unknownMember, [.member name]⟩
  | key => some ⟨.keyNotText, [key.step]⟩

-- Each option is checked on its own, and all that is wrong is told at once: first of the known
-- options, in a fixed order, and then of every unknown one.
def ofMembers (members : Members) : Except Invalid Options :=
  let allows := member members allowsName [] readAllows
  let dictionaryPath := member members dictionaryPathName none readPath
  let significantFigures := member members significantFiguresName 2 (ofCause <| readCount ·)
  let integerDigits := member members integerDigitsName 2 (ofCause <| readCount ·)
  let punctuation := member members punctuationName false (ofCause <| readBool ·)
  let unknown := members.filterMap (unknown? ·.1)
  match allows, dictionaryPath, significantFigures, integerDigits, punctuation, unknown with
  | .ok allows, .ok dictionaryPath, .ok significantFigures, .ok integerDigits, .ok punctuation,
      [] =>
    .ok { allows, dictionaryPath, significantFigures, integerDigits, punctuation }
  | _, _, _, _, _, _ =>
    .error ⟨.options, allows.issues ++ dictionaryPath.issues ++ significantFigures.issues
      ++ integerDigits.issues ++ punctuation.issues ++ unknown⟩

def ofJson : Json → Except Invalid Options
  | .object members => ofMembers (.ofObject members)
  | _ => .error ⟨.options, [⟨.notObject .options, []⟩]⟩

-- The options as an object that reads back as the same options.
def members (options : Options) : Json.Members :=
  [(allowsName, .array (options.allows.map .string)),
   (dictionaryPathName, options.dictionaryPath.elim .null fun path => .string path.toString),
   (significantFiguresName, .integer options.significantFigures),
   (integerDigitsName, .integer options.integerDigits),
   (punctuationName, .bool options.punctuation)]

def settings (options : Options) : Settings where
  significantFigures := options.significantFigures
  integerDigits := options.integerDigits
  punctuation := options.punctuation

def dictionary (options : Options) (store : Files.Store) :
    Except Dictionary.LoadError Dictionary.Loaded :=
  match options.dictionaryPath with
  | none => .ok ⟨Dictionary.builtin, []⟩
  | some path => Dictionary.load store path

end Options

end Proofread
