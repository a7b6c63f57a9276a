import Proofread.Document
import Proofread.Options
import Proofread.Segment

namespace Proofread

-- A rule holds what the passes need. It is set up once from options and files, and no later change of
-- either reaches it.
structure Rule where
  allows : AllowList
  dictionary : Dictionary
  settings : Settings

namespace Rule

inductive Error
  | unconvertible (error : Options.ConversionError)
  | invalid (report : Invalid)
  | noDictionary (error : Dictionary.LoadError)
  deriving DecidableEq

def Error.message : Error → String
  | unconvertible error => error.message
  | invalid report => report.message
  | noDictionary error => error.message

structure Ready where
  rule : Rule
  log : List LogEntry

def ofOptions (store : Files.Store) (options : Options) : Except Error Ready := do
  let loaded ← (options.dictionary store).mapError .noDictionary
  let rule : Rule := ⟨options.allows, loaded.dictionary, options.settings⟩
  return ⟨rule, loaded.log ++ [.ruleReady rule.allows.length rule.dictionary.length]⟩

def ofMembers (store : Files.Store) (members : Options.Members) : Except Error Ready := do
  ofOptions store (← (Options.ofMembers members).mapError .invalid)

def ofJson (store : Files.Store) (value : Json) : Except Error Ready := do
  ofMembers store (← (Options.Members.ofJson value).mapError .unconvertible)

def documentPass (_ : Rule) (text : String) : Pass :=
  Document.pass text

def segmentPass (rule : Rule) (text : String) : Pass :=
  Segment.pass rule.allows rule.dictionary rule.settings text

end Rule

end Proofread
