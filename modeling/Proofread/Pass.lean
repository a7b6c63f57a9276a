import Proofread.Json.Basic
import Proofread.Text

namespace Proofread

-- Thresholds of the checks. Any whole number will do; a negative one is exceeded by every count.
structure Settings where
  -- Significant figures that an uncertainty may have.
  significantFigures : Int := 2
  -- Digits that the whole parts of a value and of its uncertainty may both have.
  integerDigits : Int := 2
  -- Whether punctuation and blanks count as Japanese neighbours of a letter.
  punctuation : Bool := false
  deriving DecidableEq

abbrev AllowList := List String

namespace AllowList

def exempts (allows : AllowList) (text : String) : Bool :=
  allows.any fun phrase => Text.occursIn phrase.toList text.toList

def ofChars (text : String) : AllowList :=
  text.toList.map (·.toString)

end AllowList

-- The range counts characters of the text that was checked, and leaves out its end.
structure Diagnostic where
  rule : String
  message : String
  start : Int
  stop : Int
  deriving DecidableEq

namespace Diagnostic

def range (d : Diagnostic) : Int × Int :=
  (d.start, d.stop)

def payload (d : Diagnostic) : Json :=
  .object [("type", .string "Diagnostic"), ("rule", .string d.rule),
    ("message", .string d.message), ("range", .array [.integer d.start, .integer d.stop])]

end Diagnostic

inductive LogEntry
  | documentPass (length found : Nat)
  | segmentPass (length found : Nat)
  | dictionaryLoaded (entries : Nat) (path : String)
  | ruleReady (allows entries : Nat)
  deriving DecidableEq

def LogEntry.line : LogEntry → String
  | documentPass length found =>
    "DEBUG report_lint.core: document pass: " ++ toString length ++ " chars, " ++ toString found
      ++ " diagnostics"
  | segmentPass length found =>
    "DEBUG report_lint.core: segment pass: " ++ toString length ++ " chars, " ++ toString found
      ++ " diagnostics"
  | dictionaryLoaded entries path =>
    "INFO report_lint.dictionary: Loaded " ++ toString entries ++ " dictionary entries from " ++ path
  | ruleReady allows entries =>
    "INFO report_lint.rule: report rule ready: " ++ toString allows ++ " allow entries, "
      ++ toString entries ++ " dictionary entries"

structure Pass where
  diagnostics : List Diagnostic
  log : List LogEntry
  deriving DecidableEq

end Proofread
