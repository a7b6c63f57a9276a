import Proofread.Pass
import Proofread.Pattern.Search

namespace Proofread

structure Caption where
  span : Span
  content : List Char

namespace Caption

open Pattern

def pattern : Pattern :=
  concat [literal "\\caption\x7b", group 1 lazyLine, literal "\x7d"]

def ofFinding (text : Array Char) (finding : Finding) : Caption where
  span := finding.span
  content := (finding.group? 1).elim [] (·.slice text)

def findAll (text : Array Char) : List Caption :=
  (pattern.findAll text).map (ofFinding text)

def diagnostic (caption : Caption) : Diagnostic where
  rule := "duplicate_caption"
  message := "重複したキャプション: \"" ++ String.ofList caption.content ++ "\""
  start := caption.span.start
  stop := caption.span.stop

-- The captions whose content was seen before.
def repeats (seen : List (List Char)) : List Caption → List Caption
  | [] => []
  | caption :: rest =>
    if seen.contains caption.content then caption :: repeats seen rest
    else repeats (caption.content :: seen) rest

def check (text : Array Char) : List Diagnostic :=
  (repeats [] (findAll text)).map diagnostic

end Caption

namespace MathDelimiter

open Pattern

def dollarPattern : Pattern :=
  concat [ofChar '$', group 1 lazyLine, ofChar '$']

def parenPattern : Pattern :=
  concat [literal "\\(", group 1 lazyLine, literal "\\)"]

def diagnostic (parens dollars : Nat) (finding : Finding) : Diagnostic where
  rule := "mixed_math_delimiter"
  message := "\\(...\\) と $...$ が混在しています。(" ++ toString parens ++ "回 / " ++ toString dollars
    ++ "回)"
  start := finding.span.start
  stop := finding.span.stop

-- Inline formulas are written between dollar signs or between `\(` and `\)`. A document that mixes
-- the two styles is told which of its formulas are in the rarer one; when there are as many of both,
-- these are the dollar ones.
def check (text : Array Char) : List Diagnostic :=
  let dollars := dollarPattern.findAll text
  let parens := parenPattern.findAll text
  if dollars.isEmpty || parens.isEmpty then
    []
  else
    (if dollars.length ≤ parens.length then dollars else parens).map
      (diagnostic parens.length dollars.length)

end MathDelimiter

namespace Document

def check (text : String) : List Diagnostic :=
  let chars := text.toList.toArray
  Caption.check chars ++ MathDelimiter.check chars

def pass (text : String) : Pass where
  diagnostics := check text
  log := [.documentPass text.length (check text).length]

end Document

end Proofread
