import Proofread.Pass
import Proofread.Pattern.Search

namespace Proofread.ItalicVariable

open Pattern

-- Hiragana, katakana in both widths with the voicing marks, kanji, and the two iteration marks.
def japanese : List CharSet.Item :=
  [('ぁ', 'ん'), ('ァ', 'ヶ'), ('ｱ', 'ﾝ'), ('ﾞ', 'ﾞ'), ('ﾟ', 'ﾟ'), ('一', '龥'), ('々', '々'),
    ('ー', 'ー')].map item
where
  item (range : Char × Char) : CharSet.Item :=
    .range range.1.toNat range.2.toNat

def punctuation : List CharSet.Item :=
  ("、。，．・「」『』（）.,".toList.map fun c => .range c.toNat c.toNat)
    ++ [.category ⟨.space, false, false⟩]

def neighbour (settings : Settings) : CharSet where
  negated := false
  items := if settings.punctuation then japanese ++ punctuation else japanese
  fold := .exact

def letter : CharSet :=
  .ofRanges [('a', 'z'), ('A', 'Z')]

-- A single Latin letter between two Japanese characters is probably a variable, which belongs in
-- italics. Units and abbreviations are taken for variables too.
def pattern (settings : Settings) : Pattern :=
  concat [char (neighbour settings), group 1 (char letter), char (neighbour settings)]

def diagnostic (text : Array Char) (span : Span) : Diagnostic where
  rule := "italic_variable"
  message := "斜体にしていない可能性が高い文字: " ++ String.ofList (span.slice text)
  start := span.start
  stop := span.stop

def check (settings : Settings) (text : Array Char) : List Diagnostic :=
  ((pattern settings).findAll text).filterMap fun finding =>
    (finding.group? 1).map (diagnostic text)

end Proofread.ItalicVariable
