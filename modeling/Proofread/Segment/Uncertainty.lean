import Proofread.Pass
import Proofread.Pattern.Search

namespace Proofread.Uncertainty

open Pattern

def digits : Pattern :=
  many1 (char (.ofRanges [('0', '9')]))

-- The whole part becomes group `index`, the decimal places the group after it.
def number (index : Nat) : Pattern :=
  seq (group index digits) (optional (seq (ofChar '.') (group (index + 1) digits)))

def sign : Pattern :=
  seq (ofChar '\\') (alt (literal "pm") (literal "mp"))

def pattern : Pattern :=
  concat [number 1, many space, sign, many space, number 3]

structure Expression where
  span : Span
  text : List Char
  valueWhole : List Char
  valuePlaces : List Char
  errorWhole : List Char
  errorPlaces : List Char

def ofFinding (text : Array Char) (finding : Finding) : Expression where
  span := finding.span
  text := finding.span.slice text
  valueWhole := part 1
  valuePlaces := part 2
  errorWhole := part 3
  errorPlaces := part 4
where
  part (index : Nat) : List Char :=
    (finding.group? index).elim [] (·.slice text)

namespace Expression

def diagnostic (e : Expression) (rule message : String) : Diagnostic where
  rule
  message := message ++ String.ofList e.text
  start := e.span.start
  stop := e.span.stop

def significant (e : Expression) : List Char :=
  e.errorPlaces.dropWhile (· == '0')

def hasManyFigures (e : Expression) (limit : Int) : Bool :=
  if e.errorWhole == ['0'] then decide (limit < e.significant.length)
  else decide (limit < e.errorPlaces.length)

def isLong (e : Expression) (limit : Int) : Bool :=
  decide (limit < e.valueWhole.length) && decide (limit < e.errorWhole.length)

def decimalPlaces (e : Expression) : List Diagnostic :=
  if e.valuePlaces.length != e.errorPlaces.length then
    [e.diagnostic "uncertainty_decimal_places" "小数点以下の桁数が揃っていません: "]
  else
    []

def significantFigures (limit : Int) (e : Expression) : List Diagnostic :=
  if e.hasManyFigures limit then
    [e.diagnostic "uncertainty_significant_figures" <|
      "不確かさの有効数字が多すぎる可能性があります (" ++ toString e.significant.length ++ "桁): "]
  else
    []

def exponentNotation (limit : Int) (e : Expression) : List Diagnostic :=
  if e.isLong limit then
    [e.diagnostic "uncertainty_exponent_notation" "×10^n の表記を使ってください: "]
  else
    []

-- A value and its uncertainty should have as many decimal places, the uncertainty few significant
-- figures, and large numbers a power of ten.
def check (settings : Settings) (e : Expression) : List Diagnostic :=
  e.decimalPlaces ++ e.significantFigures settings.significantFigures
    ++ e.exponentNotation settings.integerDigits

end Expression

def check (settings : Settings) (text : Array Char) : List Diagnostic :=
  ((pattern.findAll text).map (ofFinding text)).flatMap (·.check settings)

end Proofread.Uncertainty
