import Proofread.Pattern.Basic

namespace Proofread.Pattern

inductive Flag
  | ignoreCase
  | locale
  | multiline
  | dotAll
  | verbose
  | ascii
  | template
  | unicode
  deriving DecidableEq

namespace Flag

def ofChar? : Char → Option Flag
  | 'i' => some ignoreCase
  | 'L' => some locale
  | 'm' => some multiline
  | 's' => some dotAll
  | 'x' => some verbose
  | 'a' => some ascii
  | 't' => some template
  | 'u' => some unicode
  | _ => none

def choosesRepertoire : Flag → Bool
  | ascii | locale | unicode => true
  | _ => false

end Flag

structure Flags where
  ignoreCase : Bool
  multiline : Bool
  dotAll : Bool
  verbose : Bool
  ascii : Bool
  deriving DecidableEq

namespace Flags

def plain : Flags :=
  ⟨false, false, false, false, false⟩

def set (flags : Flags) (value : Bool) : Flag → Flags
  | .ignoreCase => { flags with ignoreCase := value }
  | .multiline => { flags with multiline := value }
  | .dotAll => { flags with dotAll := value }
  | .verbose => { flags with verbose := value }
  | .ascii => { flags with ascii := value }
  | .unicode => { flags with ascii := !value }
  | .locale | .template => flags

def update (flags : Flags) (on off : List Flag) : Flags :=
  off.foldl (·.set false ·) (on.foldl (·.set true ·) flags)

def fold (flags : Flags) : Fold :=
  if flags.ignoreCase then (if flags.ascii then .ascii else .unicode) else .exact

end Flags

end Proofread.Pattern
