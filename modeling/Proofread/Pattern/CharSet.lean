import Proofread.Unicode.Basic
import Proofread.Unicode.Case
import Proofread.Unicode.Letter

namespace Proofread

-- When two letters that differ in case are one: never, among the ASCII letters, or in all scripts.
inductive Fold
  | exact
  | ascii
  | unicode
  deriving DecidableEq

namespace Fold

def variants : Fold → Nat → List Nat
  | exact, point => [point]
  | ascii, point => Unicode.variantsAscii point
  | unicode, point => Unicode.variants point

def lower : Fold → Nat → Nat
  | exact, point => point
  | ascii, point => Unicode.lowerAscii point
  | unicode, point => Unicode.lower point

end Fold

namespace CharSet

inductive Kind
  | digit
  | space
  | word
  deriving DecidableEq

namespace Kind

def containsAscii : Kind → Nat → Bool
  | digit, point => decide (0x30 ≤ point) && decide (point ≤ 0x39)
  | space, point => (decide (0x9 ≤ point) && decide (point ≤ 0xD)) || point == 0x20
  | word, point =>
    (decide (0x30 ≤ point) && decide (point ≤ 0x39)) ||
      (decide (0x41 ≤ point) && decide (point ≤ 0x5A)) ||
      (decide (0x61 ≤ point) && decide (point ≤ 0x7A)) || point == 0x5F

def contains : Kind → Nat → Bool
  | digit, point => Unicode.isDigit point
  | space, point => Unicode.isSpace point
  | word, point => Unicode.isLetter point || Unicode.isNumeral point || point == 0x5F

end Kind

structure Category where
  kind : Kind
  ascii : Bool
  negated : Bool
  deriving DecidableEq

def Category.contains (category : Category) (point : Nat) : Bool :=
  (if category.ascii then category.kind.containsAscii point else category.kind.contains point)
    != category.negated

inductive Item
  | range (first last : Nat)
  | category (named : Category)
  deriving DecidableEq

-- A range holds a letter when it holds one of the letter's variants; a category does not mix cases.
def Item.contains (fold : Fold) (point : Nat) : Item → Bool
  | .range first last =>
    (fold.variants point).any fun variant => decide (first ≤ variant) && decide (variant ≤ last)
  | .category named => named.contains point

end CharSet

structure CharSet where
  negated : Bool
  items : List CharSet.Item
  fold : Fold
  deriving DecidableEq

namespace CharSet

def contains (set : CharSet) (c : Char) : Bool :=
  set.items.any (·.contains set.fold c.toNat) != set.negated

def any : CharSet :=
  ⟨true, [], .exact⟩

def single (point : Nat) (fold : Fold) : CharSet :=
  ⟨false, [.range point point], fold⟩

def notSingle (point : Nat) : CharSet :=
  ⟨true, [.range point point], .exact⟩

def ofCategory (category : Category) : CharSet :=
  ⟨false, [.category category], .exact⟩

def ofRanges (ranges : List (Char × Char)) : CharSet :=
  ⟨false, ranges.map fun (first, last) => .range first.toNat last.toNat, .exact⟩

end CharSet

end Proofread
