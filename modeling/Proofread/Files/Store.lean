import Proofread.Files.Path
import Proofread.Text

namespace Proofread.Files

abbrev Content := List UInt8

inductive Error
  | notFound (path : Path)
  | notDirectory (path : Path)
  | isDirectory (path : Path)
  | nulCharacter
  deriving DecidableEq

def Error.message : Error → String
  | notFound path => "[Errno 2] No such file or directory: " ++ Text.quoted path.toString
  | notDirectory path => "[Errno 20] Not a directory: " ++ Text.quoted path.toString
  | isDirectory path => "[Errno 21] Is a directory: " ++ Text.quoted path.toString
  | nulCharacter => "embedded null byte"

-- Nothing is known of what lies above the top directory. A directory stays when its last file is
-- gone.
structure Store where
  files : List (List String × Content)
  directories : List (List String)

-- A place on the way: the number of steps above the top directory, and the names below it.
structure Place where
  above : Nat
  names : List String

namespace Store

def empty : Store :=
  ⟨[], []⟩

def content? (store : Store) (names : List String) : Option Content :=
  store.files.lookup names

def isDirectory (store : Store) (place : Place) : Bool :=
  place.names.isEmpty || store.directories.contains place.names

def enter (store : Store) (path : Path) (place : Place) (name : String) : Except Error Place :=
  if store.isDirectory place then
    if name = ".." then
      match place.names with
      | [] => .ok { place with above := place.above + 1 }
      | names => .ok { place with names := names.dropLast }
    else if place.above = 0 then
      .ok { place with names := place.names ++ [name] }
    else
      .error (.notFound path)
  else if (store.content? place.names).isSome then
    .error (.notDirectory path)
  else
    .error (.notFound path)

def resolve (store : Store) (path : Path) : Except Error (List String × Content) := do
  if path.toString.toList.contains '\x00' then
    .error .nulCharacter
  else if path.root != .none then
    .error (.notFound path)
  else
    let place ← path.parts.foldlM (store.enter path) ⟨0, []⟩
    if store.isDirectory place then
      .error (.isDirectory path)
    else
      match store.content? place.names with
      | some content => .ok (place.names, content)
      | none => .error (.notFound path)

def read (store : Store) (path : Path) : Except Error Content :=
  (·.2) <$> store.resolve path

def write (store : Store) (path : Path) (content : Content) : Store where
  files := (path.parts, content) :: store.files.filter (·.1 != path.parts)
  directories := (List.range path.parts.length).map path.parts.take ++ store.directories

def delete (store : Store) (path : Path) : Except Error Store := do
  let (names, _) ← store.resolve path
  return { store with files := store.files.filter (·.1 != names) }

end Store

end Proofread.Files
