import Proofread.Dictionary.Basic
import Proofread.Segment.ItalicVariable
import Proofread.Segment.Uncertainty

namespace Proofread

namespace EmptyBrace

def pattern : Pattern :=
  .literal "\x7b\x7d"

def diagnostic (finding : Finding) : Diagnostic where
  rule := "empty_brace"
  message := "空欄になっています。"
  start := finding.span.start
  stop := finding.span.stop

def check (text : Array Char) : List Diagnostic :=
  (pattern.findAll text).map diagnostic

end EmptyBrace

namespace Phrase

def diagnostic (entry : Dictionary.Entry) (finding : Finding) : Diagnostic where
  rule := "dictionary"
  message := "\"" ++ entry.incorrect ++ "\" -?> \"" ++ entry.correct ++ "\""
  start := finding.span.start
  stop := finding.span.stop

def checkEntry (text : Array Char) (entry : Dictionary.Entry) : List Diagnostic :=
  (entry.pattern.findAll text).map (diagnostic entry)

def check (dictionary : Dictionary) (text : Array Char) : List Diagnostic :=
  dictionary.flatMap (checkEntry text)

end Phrase

namespace Segment

def check (dictionary : Dictionary) (settings : Settings) (text : String) : List Diagnostic :=
  let chars := text.toList.toArray
  EmptyBrace.check chars ++ ItalicVariable.check settings chars ++ Uncertainty.check settings chars
    ++ Phrase.check dictionary chars

def pass (allows : AllowList) (dictionary : Dictionary) (settings : Settings) (text : String) :
    Pass :=
  if allows.exempts text then
    ⟨[], []⟩
  else
    let found := check dictionary settings text
    ⟨found, [.segmentPass text.length found.length]⟩

end Segment

end Proofread
