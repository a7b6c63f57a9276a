import Proofread.Pattern.Error

namespace Proofread.Pattern

-- A backslash at the very end is refused as soon as it comes next.
inductive Token
  | char (c : Char)
  | escape (c : Char)
  | dangling
  deriving DecidableEq

namespace Token

def ofText : List Char → List Token
  | [] => []
  | ['\\'] => [dangling]
  | '\\' :: c :: rest => escape c :: ofText rest
  | c :: rest => char c :: ofText rest

def text : Token → String
  | char c => c.toString
  | escape c => String.ofList ['\\', c]
  | dangling => "\\"

def width : Token → Nat
  | char _ | dangling => 1
  | escape _ => 2

end Token

structure Source where
  tokens : List Token
  pos : Nat
  deriving DecidableEq

abbrev Reader := StateT Source (Except Error)

namespace Reader

-- Refuses the pattern at a place `back` characters before the next token.
def fail {α : Type} (fault : Fault) (back : Nat) : Reader α := fun source =>
  .error (.malformed fault (source.pos - back))

def failAt {α : Type} (fault : Fault) (offset : Nat) : Reader α := fun _ =>
  .error (.malformed fault offset)

def refuse {α : Type} (error : Error) : Reader α := fun _ =>
  .error error

def position : Reader Nat := fun source =>
  .ok (source.pos, source)

def left : Reader Nat := fun source =>
  .ok (source.tokens.length, source)

def peek : Reader (Option Token) := fun source =>
  .ok (source.tokens.head?, source)

def next : Reader (Option Token) := fun source =>
  match source.tokens with
  | [] => .ok (none, source)
  | token :: rest =>
    let pos := source.pos + token.width
    match rest with
    | .dangling :: _ => .error (.malformed .danglingEscape pos)
    | _ => .ok (some token, ⟨rest, pos⟩)

def eat (c : Char) : Reader Bool := do
  if (← peek) = some (.char c) then
    let _ ← next
    return true
  return false

def takeWhile (accept : Char → Bool) : (most : Nat) → Reader (List Char)
  | 0 => return []
  | most + 1 => do
    match ← peek with
    | some (.char c) =>
      if accept c then
        let _ ← next
        return c :: (← takeWhile accept most)
      else
        return []
    | _ => return []

def takeUntil (terminator : Char) (what : String) : Reader String := do
  go (← left) ""
where
  go : Nat → String → Reader String
    | 0, found => ended found
    | more + 1, found => do
      match ← next with
      | none => ended found
      | some token =>
        if token = .char terminator then
          if found.isEmpty then fail (.missingName what) 1 else return found
        else
          go more (found ++ token.text)
  ended (found : String) : Reader String :=
    if found.isEmpty then fail (.missingName what) 0
    else fail (.unterminatedName terminator) found.length

end Reader

end Proofread.Pattern
