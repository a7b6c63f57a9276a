import Proofread.Pattern.Basic

namespace Proofread.Pattern

structure Width where
  least : Nat
  most : Nat
  deriving DecidableEq

namespace Width

-- Counts from here on are too large for a repetition. Widths stop growing at this limit, which stands
-- for any number.
def limit : Nat := 4294967295

def clamp (least most : Nat) : Width :=
  ⟨min least (limit - 1), min most limit⟩

def exactly (n : Nat) : Width :=
  ⟨n, n⟩

def add (a b : Width) : Width :=
  clamp (a.least + b.least) (a.most + b.most)

def either (a b : Width) : Width :=
  ⟨min a.least b.least, max a.most b.most⟩

def repeated (a : Width) (least : Nat) (most : Option Nat) : Width :=
  clamp (least * a.least) (most.getD limit * a.most)

def isFixed (a : Width) : Bool :=
  a.least == a.most

end Width

def width (groups : Nat → Width) : Pattern → Width
  | empty | look .. | anchor _ => .exactly 0
  | char _ => .exactly 1
  | seq p q => (p.width groups).add (q.width groups)
  | alt p q | ifGroup _ p q => (p.width groups).either (q.width groups)
  | repeated _ least most p => (p.width groups).repeated least most
  | group _ p | atomic p => p.width groups
  | same index _ => groups index

end Proofread.Pattern
