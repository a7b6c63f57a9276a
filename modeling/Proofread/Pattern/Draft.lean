import Proofread.Pattern.Flags
import Proofread.Pattern.Width

namespace Proofread.Pattern

-- What a repetition may follow: neither an anchor nor another repetition.
inductive Standing
  | free
  | anchor
  | repetition
  deriving DecidableEq

structure Part where
  pattern : Pattern
  standing : Standing

namespace Part

def free (pattern : Pattern) : Part :=
  ⟨pattern, .free⟩

end Part

inductive Opening
  | whole
  | plain
  | capture (index : Nat)
  | atomic
  | ahead (negated : Bool)
  | behind (negated : Bool) (around : Option Nat)
  | ifGroup (index : Nat)

-- Parts and finished alternatives are listed latest first.
structure Frame where
  opening : Opening
  start : Nat
  flags : Flags
  alternatives : List Pattern
  parts : List Part

namespace Frame

def push (frame : Frame) (part : Part) : Frame :=
  { frame with parts := part :: frame.parts }

def sequence (frame : Frame) : Pattern :=
  concat (frame.parts.reverse.map (·.pattern))

def divide (frame : Frame) : Frame :=
  { frame with alternatives := frame.sequence :: frame.alternatives, parts := [] }

def pattern (frame : Frame) : Pattern :=
  choice (frame.divide.alternatives.reverse)

-- A condition has a second branch at most.
def condition (frame : Frame) (index : Nat) : Pattern :=
  match frame.alternatives.reverse with
  | [] => .ifGroup index frame.sequence .empty
  | yes :: _ => .ifGroup index yes frame.sequence

def isFull (frame : Frame) : Bool :=
  match frame.opening with
  | .ifGroup _ => !frame.alternatives.isEmpty
  | _ => false

end Frame

-- A pattern that is being read: the groups that are open, from the inside out, with what each holds so
-- far, and what later parts of the pattern may refer to.
structure Draft where
  frame : Frame
  outer : List Frame
  -- The widths of groups 1, 2, …; none while the group is open.
  widths : List (Option Width)
  names : List (String × Nat)
  -- Groups that a condition names by number, with the place of the first mention.
  mentioned : List (Nat × Nat)
  -- How many groups there were when the outermost open look behind began.
  behind : Option Nat
  -- Some look behind has no fixed width.
  unfixed : Bool
  repertoires : List Flag

namespace Draft

def initial : Draft where
  frame := ⟨.whole, 0, .plain, [], []⟩
  outer := []
  widths := []
  names := []
  mentioned := []
  behind := none
  unfixed := false
  repertoires := []

def groupCount (draft : Draft) : Nat :=
  draft.widths.length

def hasGroup (draft : Draft) (index : Nat) : Bool :=
  decide (index ≤ draft.groupCount)

def isClosed (draft : Draft) (index : Nat) : Bool :=
  match index with
  | 0 => false
  | i + 1 => ((draft.widths[i]?).bind id).isSome

def widthOf (draft : Draft) (index : Nat) : Width :=
  ((draft.widths[index - 1]?).bind id).getD (.exactly 0)

def push (draft : Draft) (part : Part) : Draft :=
  { draft with frame := draft.frame.push part }

def enter (draft : Draft) (opening : Opening) (start : Nat) (flags : Flags) : Draft :=
  { draft with frame := ⟨opening, start, flags, [], []⟩, outer := draft.frame :: draft.outer }

def divide (draft : Draft) : Draft :=
  { draft with frame := draft.frame.divide }

def close (draft : Draft) : Draft :=
  match draft.outer with
  | [] => draft
  | around :: outer =>
    let inner := draft.frame
    let body := inner.pattern
    let width := body.width draft.widthOf
    let draft := { draft with frame := around, outer }
    match inner.opening with
    | .whole | .plain => draft.push (.free body)
    | .capture index =>
      { draft with widths := draft.widths.set (index - 1) (some width) }.push
        (.free (.group index body))
    | .atomic => draft.push (.free (.atomic body))
    | .ahead negated => draft.push (.free (.look .ahead negated body))
    | .behind negated outermost =>
      { draft with behind := outermost, unfixed := draft.unfixed || !width.isFixed }.push
        (.free (.look (.behind width.least) negated body))
    | .ifGroup index => draft.push (.free (inner.condition index))

end Draft

end Proofread.Pattern
