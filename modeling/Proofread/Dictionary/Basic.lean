import Proofread.Pattern.Basic

namespace Proofread

namespace Dictionary

structure Entry where
  incorrect : String
  correct : String
  pattern : Pattern
  deriving DecidableEq

end Dictionary

abbrev Dictionary := List Dictionary.Entry

namespace Dictionary

def Entry.ofPhrase (incorrect correct : String) : Entry :=
  ⟨incorrect, correct, .literal incorrect⟩

def graphPattern : Pattern :=
  .concat (("グラフ".toList.map .ofChar) ++ [.char (.ofRanges [('1', '9'), ('１', '９')])])

-- The dictionary that is used when no other is given: kana where kanji are usual, and colloquial
-- words.
def builtin : Dictionary :=
  [.ofPhrase "しょうかい" "紹介",
   .ofPhrase "じっけん" "実験",
   .ofPhrase "そくてい" "測定",
   .ofPhrase "けっか" "結果",
   .ofPhrase "こうさつ" "考察",
   .ofPhrase "ごさ" "誤差",
   .ofPhrase "すうち" "数値",
   .ofPhrase "かんさつ" "観察",
   .ofPhrase "けいさん" "計算",
   .ofPhrase "みたいな" "のような",
   .ofPhrase "なので" "であるため",
   .ofPhrase "じゃない" "ではない",
   .ofPhrase "いっぱい" "多く",
   .ofPhrase "ちょっと" "少し",
   .ofPhrase "すごく" "非常に",
   .ofPhrase "とても" "非常に",
   .ofPhrase "だいたい" "おおよそ",
   .ofPhrase "思います" "考えられる",
   .ofPhrase "重さ" "質量",
   .ofPhrase "電気の流れ" "電流",
   ⟨"グラフ[1-9１-９]", "図", graphPattern⟩,
   .ofPhrase "表を見ると" "表より",
   .ofPhrase "有効桁数" "有効数字"]

end Dictionary

end Proofread
