import Proofread.Number.Numeral
import Proofread.Pattern.Basic
import Proofread.Text

namespace Proofread.Pattern

inductive Fault
  | danglingEscape
  | badEscape (escape : String)
  | incompleteEscape (escape : String)
  | octalTooLarge (escape : String)
  | missingBrace
  | unknownCharacter (name : String)
  | unterminatedSet
  | badRange (first last : String)
  | leastAboveMost
  | nothingToRepeat
  | repeatedRepeat
  | endOfPattern
  | unknownExtension (text : String)
  | missingName (what : String)
  | unterminatedName (terminator : Char)
  | badName (name : String)
  | unknownName (name : String)
  | nameTaken (name : String) (index taken : Nat)
  | openGroup
  | groupInLookBehind
  | groupZero
  | noSuchGroup (index : Nat)
  | unterminatedComment
  | unterminatedGroup
  | thirdBranch
  | lateFlags
  | localeFlag
  | repertoireConflict
  | flagsUnended
  | unknownFlag
  | globalFlagOn
  | flagMissing
  | repertoireOff
  | colonMissing
  | globalFlagOff
  | flagOnAndOff
  | unbalanced
  deriving DecidableEq

namespace Fault

def message : Fault → String
  | danglingEscape => "bad escape (end of pattern)"
  | badEscape escape => "bad escape " ++ escape
  | incompleteEscape escape => "incomplete escape " ++ escape
  | octalTooLarge escape => "octal escape value " ++ escape ++ " outside of range 0-0o377"
  | missingBrace => "missing \x7b"
  | unknownCharacter name => "undefined character name " ++ Text.quoted name
  | unterminatedSet => "unterminated character set"
  | badRange first last => "bad character range " ++ first ++ "-" ++ last
  | leastAboveMost => "min repeat greater than max repeat"
  | nothingToRepeat => "nothing to repeat"
  | repeatedRepeat => "multiple repeat"
  | endOfPattern => "unexpected end of pattern"
  | unknownExtension text => "unknown extension ?" ++ text
  | missingName what => "missing " ++ what
  | unterminatedName terminator => "missing " ++ terminator.toString ++ ", unterminated name"
  | badName name => "bad character in group name " ++ Text.quoted name
  | unknownName name => "unknown group name " ++ Text.quoted name
  | nameTaken name index taken =>
    "redefinition of group name " ++ Text.quoted name ++ " as group " ++ toString index
      ++ "; was group " ++ toString taken
  | openGroup => "cannot refer to an open group"
  | groupInLookBehind => "cannot refer to group defined in the same lookbehind subpattern"
  | groupZero => "bad group number"
  | noSuchGroup index => "invalid group reference " ++ toString index
  | unterminatedComment => "missing ), unterminated comment"
  | unterminatedGroup => "missing ), unterminated subpattern"
  | thirdBranch => "conditional backref with more than two branches"
  | lateFlags => "global flags not at the start of the expression"
  | localeFlag => "bad inline flags: cannot use 'L' flag with a str pattern"
  | repertoireConflict => "bad inline flags: flags 'a', 'u' and 'L' are incompatible"
  | flagsUnended => "missing -, : or )"
  | unknownFlag => "unknown flag"
  | globalFlagOn => "bad inline flags: cannot turn on global flag"
  | flagMissing => "missing flag"
  | repertoireOff => "bad inline flags: cannot turn off flags 'a', 'u' and 'L'"
  | colonMissing => "missing :"
  | globalFlagOff => "bad inline flags: cannot turn off global flag"
  | flagOnAndOff => "bad inline flags: flag turned on and off"
  | unbalanced => "unbalanced parenthesis"

end Fault

inductive Error
  | malformed (fault : Fault) (offset : Nat)
  | variableLookBehind
  | countTooLarge
  | countTooLong (digits : Nat)
  | conflictingFlags
  deriving DecidableEq

namespace Error

def placed (pattern : String) (offset : Nat) : String :=
  let place := Text.Place.ofOffset pattern.toList offset
  " at position " ++ toString offset ++
    if pattern.toList.contains '\n' then
      " (line " ++ toString place.line ++ ", column " ++ toString place.column ++ ")"
    else
      ""

def message (pattern : String) : Error → String
  | malformed fault offset => fault.message ++ placed pattern offset
  | variableLookBehind => "look-behind requires fixed-width pattern"
  | countTooLarge => "the repetition number is too large"
  | countTooLong digits => Numeral.tooLongMessage digits
  | conflictingFlags => "ASCII and UNICODE flags are incompatible"

end Error

end Proofread.Pattern
