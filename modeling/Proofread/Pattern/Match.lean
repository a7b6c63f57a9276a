import Proofread.Pattern.Basic

namespace Proofread

structure Span where
  start : Nat
  stop : Nat
  deriving DecidableEq

structure Progress where
  pos : Nat
  groups : List (Nat × Span)
  deriving DecidableEq

namespace Progress

def group? (progress : Progress) (index : Nat) : Option Span :=
  progress.groups.lookup index

def setGroup (progress : Progress) (index : Nat) (span : Span) : Progress :=
  { progress with groups := (index, span) :: progress.groups.filter (·.1 != index) }

end Progress

-- A pattern has several ways to match from one place, in an order of preference. A matcher offers
-- them to the continuation, one after the other, until one is accepted.
abbrev Matcher := Progress → (Progress → Option Progress) → Option Progress

namespace Matcher

def first? (m : Matcher) (s : Progress) : Option Progress :=
  m s some

def times (m : Matcher) : Nat → Matcher
  | 0, s, k => k s
  | n + 1, s, k => m s fun s' => times m n s' k

-- An iteration that takes nothing is the last one. So with `fuel` above the number of characters
-- left, the fuel never decides.
def greedy (m : Matcher) : (fuel : Nat) → (most : Option Nat) → Matcher
  | _, some 0, s, k => k s
  | 0, _, s, k => k s
  | fuel + 1, most, s, k =>
    m s (fun s' => if s'.pos = s.pos then k s' else greedy m fuel (most.map (· - 1)) s' k) <|> k s

def lazy (m : Matcher) : (fuel : Nat) → (most : Option Nat) → Matcher
  | _, some 0, s, k => k s
  | 0, _, s, k => k s
  | fuel + 1, most, s, k =>
    k s <|>
      m s fun s' => if s'.pos = s.pos then k s' else lazy m fuel (most.map (· - 1)) s' k

def possessive (m : Matcher) : (fuel : Nat) → (most : Option Nat) → Progress → Progress
  | _, some 0, s => s
  | 0, _, s => s
  | fuel + 1, most, s =>
    match m.first? s with
    | none => s
    | some s' => if s'.pos = s.pos then s' else possessive m fuel (most.map (· - 1)) s'

def timesFirst? (m : Matcher) : Nat → Progress → Option Progress
  | 0, s => some s
  | n + 1, s => (m.first? s).bind (timesFirst? m n)

end Matcher

namespace Pattern

section Places

variable (text : Array Char) (pos : Nat)

def isLineFeed : Bool :=
  text[pos]? == some '\n'

def isWord (ascii : Bool) : Bool :=
  text[pos]?.any fun c => CharSet.Category.contains ⟨.word, ascii, false⟩ c.toNat

def isWordEdge (ascii : Bool) : Bool :=
  (decide (0 < pos) && isWord text (pos - 1) ascii) != isWord text pos ascii

-- The empty text has no word edge, and no place that is not one either.
def Anchor.holds : Anchor → Bool
  | textStart => pos == 0
  | lineStart => pos == 0 || isLineFeed text (pos - 1)
  | textEnd => pos == text.size
  | lastLineEnd => pos == text.size || (pos + 1 == text.size && isLineFeed text pos)
  | lineEnd => pos == text.size || isLineFeed text pos
  | wordEdge ascii => text.size != 0 && isWordEdge text pos ascii
  | notWordEdge ascii => text.size != 0 && !isWordEdge text pos ascii

def repeats (fold : Fold) (span : Span) : Bool :=
  (List.range (span.stop - span.start)).all fun i =>
    match text[span.start + i]?, text[pos + i]? with
    | some c, some d => fold.lower c.toNat == fold.lower d.toNat
    | _, _ => false

end Places

def Look.origin? : Look → Nat → Option Nat
  | ahead, pos => some pos
  | behind width, pos => if width ≤ pos then some (pos - width) else none

def run (text : Array Char) : Pattern → Matcher
  | empty, s, k => k s
  | char set, s, k =>
    match text[s.pos]? with
    | some c => if set.contains c then k { s with pos := s.pos + 1 } else none
    | none => none
  | seq p q, s, k => p.run text s fun s' => q.run text s' k
  | alt p q, s, k => p.run text s k <|> q.run text s k
  | repeated greed least most p, s, k =>
    let fuel := text.size + 1
    let more := most.map (· - least)
    match greed with
    | .greedy => Matcher.times (p.run text) least s fun s' =>
        Matcher.greedy (p.run text) fuel more s' k
    | .lazy => Matcher.times (p.run text) least s fun s' =>
        Matcher.lazy (p.run text) fuel more s' k
    | .possessive => (Matcher.timesFirst? (p.run text) least s).bind fun s' =>
        k (Matcher.possessive (p.run text) fuel more s')
  | group index p, s, k => p.run text s fun s' => k (s'.setGroup index ⟨s.pos, s'.pos⟩)
  | atomic p, s, k => (Matcher.first? (p.run text) s).bind k
  | look side negated p, s, k =>
    let found := (side.origin? s.pos).bind fun pos =>
      Matcher.first? (p.run text) { s with pos }
    match negated, found with
    | false, some s' => k { s' with pos := s.pos }
    | true, none => k s
    | _, _ => none
  | same index fold, s, k =>
    match s.group? index with
    | some span =>
      if repeats text s.pos fold span then k { s with pos := s.pos + (span.stop - span.start) }
      else none
    | none => none
  | ifGroup index p q, s, k => if (s.group? index).isSome then p.run text s k else q.run text s k
  | anchor place, s, k => if place.holds text s.pos then k s else none

end Pattern

end Proofread
