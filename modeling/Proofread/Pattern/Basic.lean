import Proofread.Pattern.CharSet

namespace Proofread

namespace Pattern

-- Which counts a repetition tries first. A possessive one keeps what it took.
inductive Greed
  | greedy
  | lazy
  | possessive
  deriving DecidableEq

inductive Anchor
  | textStart
  | lineStart
  | textEnd
  -- The end, or just before a line feed that ends the text.
  | lastLineEnd
  | lineEnd
  | wordEdge (ascii : Bool)
  | notWordEdge (ascii : Bool)
  deriving DecidableEq

inductive Look
  | ahead
  | behind (width : Nat)
  deriving DecidableEq

end Pattern

open Pattern in
inductive Pattern
  | empty
  | char (set : CharSet)
  | seq (first second : Pattern)
  | alt (first second : Pattern)
  | repeated (greed : Greed) (least : Nat) (most : Option Nat) (body : Pattern)
  | group (index : Nat) (body : Pattern)
  -- The first way of the body, and no other.
  | atomic (body : Pattern)
  | look (side : Look) (negated : Bool) (body : Pattern)
  -- The text that a group took, again.
  | same (index : Nat) (fold : Fold)
  | ifGroup (index : Nat) (yes no : Pattern)
  | anchor (place : Anchor)
  deriving DecidableEq

namespace Pattern

def ofChar (c : Char) : Pattern :=
  char (.single c.toNat .exact)

def concat : List Pattern → Pattern
  | [] => empty
  | [p] => p
  | p :: ps => seq p (concat ps)

def choice : List Pattern → Pattern
  | [] => empty
  | [p] => p
  | p :: ps => alt p (choice ps)

def literal (text : String) : Pattern :=
  concat (text.toList.map ofChar)

def optional (p : Pattern) : Pattern :=
  repeated .greedy 0 (some 1) p

def many (p : Pattern) : Pattern :=
  repeated .greedy 0 none p

def many1 (p : Pattern) : Pattern :=
  repeated .greedy 1 none p

def lazyLine : Pattern :=
  repeated .lazy 0 none (char (.notSingle 0xA))

def space : Pattern :=
  char (.ofCategory ⟨.space, false, false⟩)

end Pattern

end Proofread
