import Proofread.Proofs.Pattern.Run
import Proofread.Segment.Uncertainty

namespace Proofread.Uncertainty

open Pattern Text

def isBlank (c : Char) : Bool :=
  Unicode.isSpace c.toNat

def isFigure (c : Char) : Bool :=
  c.isDigit || c == '.'

theorem digits_contains : (CharSet.ofRanges [('0', '9')]).contains = Char.isDigit := by
  funext c
  simp [CharSet.ofRanges, CharSet.contains, CharSet.Item.contains, Fold.variants, Char.isDigit,
    UInt32.le_iff_toNat_le]

theorem space_contains : (CharSet.ofCategory ⟨.space, false, false⟩).contains = isBlank := by
  funext c
  simp [CharSet.ofCategory, CharSet.contains, CharSet.Item.contains, CharSet.Category.contains,
    CharSet.Kind.contains, isBlank]

theorem isFigure_of_isDigit {c : Char} (h : c.isDigit) : isFigure c := by
  simp [isFigure, h]

theorem isFigure_of_point {c : Char} (h : c == '.') : isFigure c := by
  simp [isFigure, h]

theorem not_point_of_isDigit {c : Char} (h : c.isDigit) : (c == '.') = false := by
  rw [beq_eq_false_iff_ne]
  rintro rfl
  cases h

theorem not_isDigit_of_point {c : Char} (h : c == '.') : c.isDigit = false := by
  rw [eq_of_beq h]
  rfl

theorem not_isBlank_of_isFigure {c : Char} (h : isFigure c) : isBlank c = false := by
  simp only [isFigure, Char.isDigit, UInt32.le_iff_toNat_le, Bool.or_eq_true, Bool.and_eq_true,
    decide_eq_true_eq, beq_iff_eq] at h
  obtain ⟨low, high⟩ | rfl := h
  case inr => decide
  case inl =>
    change 48 ≤ c.toNat at low
    change c.toNat ≤ 57 at high
    rw [isBlank, Unicode.isSpace, Unicode.spaces, Unicode.Ranges.contains, if_neg (by omega),
      Unicode.Ranges.contains, if_neg (by omega), Unicode.Ranges.contains, if_pos (by omega)]
    exact decide_eq_false (by omega)

theorem not_point_of_isBlank {c : Char} (h : isBlank c) : (c == '.') = false :=
  Bool.eq_false_iff.mpr fun hp => by simp [not_isBlank_of_isFigure (isFigure_of_point hp)] at h

theorem not_isDigit_of_isBlank {c : Char} (h : isBlank c) : c.isDigit = false :=
  Bool.eq_false_iff.mpr fun hd => by simp [not_isBlank_of_isFigure (isFigure_of_isDigit hd)] at h

-- Where the parts of a decimal stand. Without a point there are no places.
structure Decimal where
  whole  : Span
  places : Option Span
  deriving DecidableEq

namespace Decimal

def stop (d : Decimal) : Nat :=
  d.places.elim d.whole.stop (·.stop)

def span (d : Decimal) : Span :=
  ⟨d.whole.start, d.stop⟩

end Decimal

structure Reading where
  value : Decimal
  sign  : Nat
  error : Decimal
  deriving DecidableEq

namespace Reading

def span (r : Reading) : Span :=
  ⟨r.value.whole.start, r.error.stop⟩

def expression (text : Array Char) (r : Reading) : Expression where
  span        := r.span
  text        := r.span.slice text
  valueWhole  := r.value.whole.slice text
  valuePlaces := r.value.places.elim [] (·.slice text)
  errorWhole  := r.error.whole.slice text
  errorPlaces := r.error.places.elim [] (·.slice text)

end Reading

section

variable (text : List Char)

def places? (place : Nat) : Option Span :=
  if isAt (· == '.') text place && isAt Char.isDigit text (place + 1) then
    some ⟨place + 1, runEnd Char.isDigit text (place + 1)⟩
  else
    none

def decimal (place : Nat) : Decimal where
  whole  := ⟨place, runEnd Char.isDigit text place⟩
  places := places? text (runEnd Char.isDigit text place)

def isSign (place : Nat) : Bool :=
  "\\pm".toList.isPrefixOf (text.drop place) || "\\mp".toList.isPrefixOf (text.drop place)

def behindSign (sign : Nat) : Nat :=
  runEnd isBlank text (sign + 3)

def read? (pos : Nat) : Option Reading :=
  let value := decimal text pos
  let sign  := runEnd isBlank text value.stop
  if isAt Char.isDigit text pos && isSign text sign
      && isAt Char.isDigit text (behindSign text sign) then
    some ⟨value, sign, decimal text (behindSign text sign)⟩
  else
    none

end

variable {text : List Char} {place : Nat}

theorem isSign_iff :
    isSign text place ↔ text[place]? = some '\\' ∧
      (text[place + 1]? = some 'p' ∧ text[place + 2]? = some 'm' ∨
        text[place + 1]? = some 'm' ∧ text[place + 2]? = some 'p') := by
  have stands (c : Char) (rest : List Char) (place : Nat) :
      c :: rest <+: text.drop place ↔ text[place]? = some c ∧ rest <+: text.drop (place + 1) := by
    simpa using @prefix_drop_iff c text.toArray rest place
  simp [isSign, stands, and_or_left]

theorem not_isSign {kind : Char → Bool} (other : kind '\\' = false) (h : isAt kind text place) :
    isSign text place = false := by
  refine Bool.eq_false_iff.mpr fun hs => ?_
  rw [isAt, (isSign_iff.mp hs).1, Option.any_some, other] at h
  cases h

def withPlaces (index : Nat) (places : Option Span) (s : Progress) : Progress :=
  places.elim s fun places => Progress.setGroup { s with pos := places.stop } index places

def Decimal.progress (d : Decimal) (index : Nat) (groups : List (Nat × Span)) : Progress :=
  withPlaces (index + 1) d.places (Progress.setGroup ⟨d.whole.stop, groups⟩ index d.whole)

theorem Decimal.progress_pos (d : Decimal) (index : Nat) (groups : List (Nat × Span)) :
    (d.progress index groups).pos = d.stop := by
  cases hp : d.places <;> simp [progress, withPlaces, stop, hp, Progress.setGroup]

def Reading.finding (r : Reading) : Finding :=
  ⟨r.span, (r.error.progress 3 (r.value.progress 1 []).groups).groups⟩

variable {text : Array Char} {s : Progress}

theorem ofFinding_finding (text : Array Char) (r : Reading) :
    ofFinding text r.finding = r.expression text := by
  obtain ⟨⟨_, valuePlaces⟩, _, ⟨_, errorPlaces⟩⟩ := r
  cases valuePlaces <;> cases errorPlaces <;> rfl

theorem digits_prefers (index : Nat) (h : isAt Char.isDigit text.toList s.pos) :
    let stop := runEnd Char.isDigit text.toList s.pos
    Prefers (isAt Char.isDigit text.toList) ((group index digits).ways text s)
      (Progress.setGroup { s with pos := stop } index ⟨s.pos, stop⟩) := by
  have prefers := @many1_char_prefers (.ofRanges [('0', '9')]) text s
  rw [digits_contains] at prefers
  exact (prefers h).map (f := fun t => t.setGroup index ⟨s.pos, t.pos⟩) fun _ => rfl

theorem ways_digits_of_not (index : Nat) (h : isAt Char.isDigit text.toList s.pos = false) :
    (group index digits).ways text s = [] := by
  have none := @ways_many1_char_of_not (.ofRanges [('0', '9')]) text s
  rw [digits_contains] at none
  rw [ways, digits, none h, List.map_nil]

theorem places_prefers (index : Nat) (s : Progress) :
    Prefers (isAt isFigure text.toList)
      ((optional (seq (ofChar '.') (group index digits))).ways text s)
      (withPlaces index (places? text.toList s.pos) s) := by
  rw [ways_optional, ways, ways_ofChar_isAt, places?]
  by_cases hp : isAt (· == '.') text.toList s.pos
  case neg =>
    rw [if_neg hp, Bool.eq_false_iff.mpr hp]
    exact ⟨[], rfl, by simp⟩
  case pos =>
    rw [if_pos hp, hp, List.flatMap_singleton, Bool.true_and]
    by_cases hd : isAt Char.isDigit text.toList (s.pos + 1)
    case neg =>
      rw [ways_digits_of_not index (Bool.eq_false_iff.mpr hd), if_neg hd]
      exact ⟨[], rfl, by simp⟩
    case pos =>
      obtain ⟨others, he, ho⟩ := @digits_prefers text { s with pos := s.pos + 1 } index hd
      rw [he, if_pos hd]
      refine ⟨others ++ [s], rfl, fun t ht => ?_⟩
      cases List.mem_append.mp ht
      case inl ht => exact isAt_imp isFigure_of_isDigit (ho t ht)
      case inr ht => exact List.mem_singleton.mp ht ▸ isAt_imp isFigure_of_point hp

theorem number_prefers (index : Nat) (h : isAt Char.isDigit text.toList s.pos) :
    Prefers (isAt isFigure text.toList) ((number index).ways text s)
      ((decimal text.toList s.pos).progress index s.groups) := by
  refine (digits_prefers index h).flatMap (places_prefers (index + 1) _) fun t ht u hu => ?_
  have point : isAt (· == '.') text.toList t.pos = false := not_isAt not_point_of_isDigit ht
  rw [ways_optional, ways, ways_ofChar_isAt, point] at hu
  simp only [Bool.false_eq_true, if_false, List.flatMap_nil, List.nil_append] at hu
  exact List.mem_singleton.mp hu ▸ isAt_imp isFigure_of_isDigit ht

theorem ways_number_of_not (index : Nat) (h : isAt Char.isDigit text.toList s.pos = false) :
    (number index).ways text s = [] := by
  rw [number, ways, ways_digits_of_not index h, List.flatMap_nil]

theorem ways_sign (s : Progress) :
    sign.ways text s = if isSign text.toList s.pos then [{ s with pos := s.pos + 3 }] else [] := by
  have plus : "pm".length = 2 := rfl
  have minus : "mp".length = 2 := rfl
  simp only [isSign_iff, sign, ways, ways_ofChar, ways_literal, Array.getElem?_toList]
  by_cases hc : text[s.pos]? = some '\\'
  case neg => simp [hc]
  case pos =>
    by_cases hp : text[s.pos + 1]? = some 'p'
    case pos => simp [prefix_drop_iff, hc, hp, plus, Nat.add_assoc]
    case neg => simp [prefix_drop_iff, hc, hp, minus, Nat.add_assoc]

theorem blanks_prefers (s : Progress) :
    Prefers (isAt isBlank text.toList) ((many space).ways text s)
      { s with pos := runEnd isBlank text.toList s.pos } :=
  space_contains ▸ many_char_prefers (.ofCategory ⟨.space, false, false⟩) s

theorem ways_behind_value (s : Progress) :
    (concat [many space, sign, many space, number 3]).ways text s
      = if isSign text.toList (runEnd isBlank text.toList s.pos) then
          (number 3).ways text
            { s with pos := behindSign text.toList (runEnd isBlank text.toList s.pos) }
        else [] := by
  have first (t : Progress) (ht : isAt isBlank text.toList t.pos) :
      (concat [sign, many space, number 3]).ways text t = [] := by
    rw [ways_concat_cons, ways_sign, not_isSign (by decide) ht]
    rfl
  have second (t : Progress) (ht : isAt isBlank text.toList t.pos) :
      (concat [number 3]).ways text t = [] :=
    ways_number_of_not 3 (not_isAt not_isDigit_of_isBlank ht)
  rw [ways_concat_cons, (blanks_prefers s).flatMap_eq first, ways_concat_cons, ways_sign]
  dsimp only
  split
  case isFalse => rfl
  case isTrue =>
    rw [List.flatMap_singleton, ways_concat_cons, (blanks_prefers _).flatMap_eq second]
    rfl

theorem ways_behind_figure (h : isAt isFigure text.toList s.pos) :
    (concat [many space, sign, many space, number 3]).ways text s = [] := by
  have stays : runEnd isBlank text.toList s.pos = s.pos :=
    runEnd_of_not (not_isAt not_isBlank_of_isFigure h)
  rw [ways_behind_value, stays, not_isSign (by decide) h]
  rfl

theorem matchAt?_pattern (text : Array Char) (pos : Nat) :
    pattern.matchAt? text pos (fun _ => true) = (read? text.toList pos).map Reading.finding := by
  rw [matchAt?_true, pattern, ways_concat_cons, read?]
  by_cases hd : isAt Char.isDigit text.toList pos
  case neg =>
    have hd : isAt Char.isDigit text.toList pos = false := Bool.eq_false_iff.mpr hd
    rw [ways_number_of_not 1 hd, hd]
    rfl
  case pos =>
    -- Any other way of the first number ends before a digit or a point, where neither a blank nor a sign
    -- stands.
    rw [(number_prefers 1 hd).flatMap_eq fun _ => ways_behind_figure, ways_behind_value,
      Decimal.progress_pos, hd, Bool.true_and]
    dsimp only
    generalize runEnd isBlank text.toList (decimal text.toList pos).stop = sign
    by_cases hs : isSign text.toList sign
    case neg => simp [hs]
    case pos =>
      rw [if_pos hs, hs, Bool.true_and]
      by_cases he : isAt Char.isDigit text.toList (behindSign text.toList sign)
      case neg =>
        rw [if_neg he, ways_number_of_not 3 (Bool.eq_false_iff.mpr he)]
        rfl
      case pos =>
        rw [if_pos he, (number_prefers 3 he).head?, Option.map_some, Option.map_some,
          Decimal.progress_pos]
        rfl

end Proofread.Uncertainty
