import Proofread.Pattern.Escape

namespace Proofread.CharSet

open Pattern

inductive Element
  | point (point : Nat)
  | category (named : Category)

namespace Element

def item : Element → Item
  | point n => .range n n
  | category named => .category named

def readEscape (flags : Flags) (c : Char) : Reader Element :=
  match Escape.category? flags.ascii c with
  | some named => return category named
  | none =>
    if c = 'b' then return point 0x8
    else point <$> Escape.readPoint c do
      if isOctalDigit c then
        Escape.octal (c :: (← Reader.takeWhile isOctalDigit 2))
      else
        Escape.bad .badEscape [c]

def read (flags : Flags) : Token → Reader Element
  | .char c => return point c.toNat
  | .escape c => readEscape flags c
  | .dangling => return point '\\'.toNat

end Element

-- The rest of a set whose bracket stands at `start`. A bracket that comes first does not close it.
def read (flags : Flags) (start : Nat) : Reader CharSet := do
  let negated ← Reader.eat '^'
  return ⟨negated, ← go (← Reader.left) [], flags.fold⟩
where
  go : Nat → List Item → Reader (List Item)
    | 0, _ => Reader.failAt .unterminatedSet start
    | more + 1, items => do
      match ← Reader.next with
      | none => Reader.failAt .unterminatedSet start
      | some first =>
        if first = .char ']' ∧ !items.isEmpty then
          return items.reverse
        else
          let element ← Element.read flags first
          if ← Reader.eat '-' then
            match ← Reader.next with
            | none => Reader.failAt .unterminatedSet start
            | some (.char ']') =>
              return (.range '-'.toNat '-'.toNat :: element.item :: items).reverse
            | some last =>
              match element, ← Element.read flags last with
              | .point a, .point b =>
                if a ≤ b then go more (.range a b :: items) else badRange first last
              | _, _ => badRange first last
          else
            go more (element.item :: items)
  badRange {α : Type} (first last : Token) : Reader α :=
    Reader.fail (.badRange first.text last.text) (first.width + 1 + last.width)

end Proofread.CharSet
