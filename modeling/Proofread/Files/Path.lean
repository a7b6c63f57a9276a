namespace Proofread.Files

-- A path has no empty parts, and none that is a single dot. Two dots are kept, since what is above a
-- directory need not be known. Exactly two slashes at the front are a root of their own, and three or
-- more are one.
inductive Root
  | none
  | one
  | two
  deriving DecidableEq

structure Path where
  root : Root
  parts : List String
  deriving DecidableEq

namespace Path

-- What stands between slashes. `part` is the current component, latest character first.
def components : (part : List Char) → List Char → List (List Char)
  | part, [] => [part.reverse]
  | part, '/' :: rest => part.reverse :: components [] rest
  | part, c :: rest => components (c :: part) rest

def rootOf : List Char → Root
  | '/' :: '/' :: '/' :: _ => .one
  | '/' :: '/' :: _ => .two
  | '/' :: _ => .one
  | _ => .none

def isPlain (part : List Char) : Bool :=
  !part.isEmpty && part != ['.']

def ofString (text : String) : Path where
  root := rootOf text.toList
  parts := ((components [] text.toList).filter isPlain).map .ofList

def rootText : Root → String
  | .none => ""
  | .one => "/"
  | .two => "//"

def toString (path : Path) : String :=
  match path.root, path.parts with
  | .none, [] => "."
  | root, parts => rootText root ++ "/".intercalate parts

end Path

end Proofread.Files
