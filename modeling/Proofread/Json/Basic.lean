import Proofread.Number.Binary64
import Proofread.Number.Numeral
import Proofread.Table
import Proofread.Text

namespace Proofread

inductive Json
  | null
  | bool (value : Bool)
  | integer (value : Int)
  | real (value : Binary64)
  | string (value : String)
  | array (items : List Json)
  | object (members : List (String × Json))

namespace Json

abbrev Members := Table String Json

def get? : Json → String → Option Json
  | object members, key => Table.get? members key
  | _, _ => none

inductive Fault
  | byteOrderMark
  | valueExpected
  | commaExpected
  | colonExpected
  | keyExpected
  | extraData
  | controlCharacter
  | unterminatedString
  | badEscape
  | badUnicodeEscape
  deriving DecidableEq

def Fault.message : Fault → String
  | byteOrderMark => "Unexpected UTF-8 BOM (decode using utf-8-sig)"
  | valueExpected => "Expecting value"
  | commaExpected => "Expecting ',' delimiter"
  | colonExpected => "Expecting ':' delimiter"
  | keyExpected => "Expecting property name enclosed in double quotes"
  | extraData => "Extra data"
  | controlCharacter => "Invalid control character at"
  | unterminatedString => "Unterminated string starting at"
  | badEscape => "Invalid \\escape"
  | badUnicodeEscape => "Invalid \\uXXXX escape"

inductive Error
  | malformed (fault : Fault) (place : Text.Place)
  -- A whole number with so many digits is not read.
  | numeralTooLong (digits : Nat)
  deriving DecidableEq

def Error.message : Error → String
  | malformed fault place =>
    fault.message ++ ": line " ++ toString place.line ++ " column " ++ toString place.column
      ++ " (char " ++ toString place.offset ++ ")"
  | numeralTooLong digits => Numeral.tooLongMessage digits

end Json

end Proofread
