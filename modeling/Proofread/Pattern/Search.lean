import Proofread.Pattern.Match

namespace Proofread

structure Finding where
  span : Span
  groups : List (Nat × Span)
  deriving DecidableEq

namespace Finding

def group? (finding : Finding) (index : Nat) : Option Span :=
  finding.groups.lookup index

end Finding

def Span.slice (span : Span) (text : Array Char) : List Char :=
  (text.extract span.start span.stop).toList

namespace Pattern

def matchAt? (p : Pattern) (text : Array Char) (pos : Nat) (accept : Nat → Bool) :
    Option Finding :=
  (p.run text ⟨pos, []⟩ fun s => if accept s.pos then some s else none).map fun s =>
    ⟨⟨pos, s.pos⟩, s.groups⟩

-- The matches that start at `pos`, in order: one, or an empty one and then one that is not empty.
def matchesAt (p : Pattern) (text : Array Char) (pos : Nat) : List Finding :=
  match p.matchAt? text pos fun _ => true with
  | none => []
  | some finding =>
    if finding.span.stop = pos then
      finding :: (p.matchAt? text pos (· != pos)).toList
    else
      [finding]

def resume (pos : Nat) (found : List Finding) : Nat :=
  (found.getLast?.map (·.span.stop)).getD pos

-- Looks at the `left` positions from `pos` on, and skips those before `next`.
def findFrom (p : Pattern) (text : Array Char) : (left pos next : Nat) → List Finding
  | 0, _, _ => []
  | left + 1, pos, next =>
    if pos < next then
      findFrom p text left (pos + 1) next
    else
      let found := p.matchesAt text pos
      found ++ findFrom p text left (pos + 1) (resume pos found)

-- Matches do not overlap. After an empty match a match that takes something may start at the same
-- place, and an empty match may stand directly after one that is not empty.
def findAll (p : Pattern) (text : Array Char) : List Finding :=
  p.findFrom text (text.size + 1) 0 0

end Pattern

end Proofread
