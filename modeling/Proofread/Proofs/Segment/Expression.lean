import Proofread.Proofs.Pattern.Cursor
import Proofread.Proofs.Segment.Phrase
import Proofread.Proofs.Segment.Sign

namespace Proofread

def Span.within (inner outer : Span) : Bool :=
  decide (outer.start ≤ inner.start) && decide (inner.stop ≤ outer.stop)

namespace Uncertainty

open Pattern Text

section

variable (text : List Char)

-- The number on the left of a sign. What the expression before took is no part of it.
def value (previous : Option Reading) (sign : Nat) : Decimal :=
  let digits := digitsBefore text sign
  match (whole? text digits.start).filter fun whole => !previous.any (whole.within ·.span) with
  | some whole => ⟨whole, some digits⟩
  | none       => ⟨digits, none⟩

def reading (previous : Option Reading) (sign : Nat) : Reading :=
  ⟨value text previous sign, sign, decimal text (behindSign text sign)⟩

-- A sign whose digits on the left are part of the right number just before stands for no expression.
def readings : (previous : Option Reading) → (signs : List Nat) → List Reading
  | _, []                    => []
  | previous, sign :: others =>
    if previous.any fun r => (digitsBefore text sign).within r.error.span then
      readings previous others
    else
      reading text previous sign :: readings (some (reading text previous sign)) others

end

variable {text : List Char} {sign place pos : Nat} {r : Reading}

def reached (previous : Option Reading) : Nat :=
  previous.elim 0 (·.span.stop)

structure Reading.Found (r : Reading) (text : List Char) : Prop where
  between : isBetween text r.sign
  before  : r.value.whole.start < r.sign
  error   : r.error = decimal text (behindSign text r.sign)

theorem Reading.Found.error_bounds (h : r.Found text) :
    r.sign + 3 ≤ r.error.span.start ∧ r.error.span.start < r.span.stop ∧
      isAt Char.isDigit text r.span.stop = false := by
  have between := between_of_isBetween h.between
  have digit := between.error.inside _ (Nat.le_refl _) between.error.nonempty
  have ⟨longer, _, other, _⟩ := decimal_stop digit
  rw [Reading.span, h.error]
  exact ⟨between.behind, longer, other⟩

theorem found_of_read? (h : read? text pos = some r) :
    r.Found text ∧ pos < r.sign ∧ r.sign < r.span.stop := by
  obtain ⟨_, _, _, value, _, error⟩ := read?_eq_some_iff.mp h
  have start : r.value.whole.start = pos := value ▸ rfl
  have ahead := (not_isSign_of_read? h).1
  have found : r.Found text := ⟨(between_of_read? h).1, start ▸ ahead, error⟩
  have ⟨behind, longer, _⟩ := found.error_bounds
  exact ⟨found, ahead, by omega⟩

theorem Reading.Found.error_le (h : r.Found text) (hk : isBetween text sign) (hlt : r.sign < sign) :
    r.error.span.start ≤ (digitsBefore text sign).start := by
  have left := between_of_isBetween h.between
  have right := between_of_isBetween hk
  have digit := left.error.inside _ (Nat.le_refl _) left.error.nonempty
  have apart := sign_apart left.stands right.stands hlt
  have ahead : behindSign text r.sign < sign := by
    refine Nat.lt_of_not_le fun hle => ?_
    obtain he | hs := Nat.eq_or_lt_of_le hle
    · have := not_isDigit_sign right.stands sign (Nat.le_refl _) (by omega)
      exact absurd (he ▸ digit) (Bool.eq_false_iff.mp this)
    · exact absurd (left.space sign apart hs) (Bool.eq_false_iff.mp (not_isBlank_sign right.stands))
  have inside : behindSign text r.sign < (digitsBefore text sign).stop := by
    refine Nat.lt_of_not_le fun hle => ?_
    have := not_isAt not_isDigit_of_isBlank (right.blanks _ hle ahead)
    exact absurd digit (Bool.eq_false_iff.mp this)
  rw [h.error]
  exact right.digits.le_start (.inl left.error.before) inside

theorem Reading.Found.within_error (h : r.Found text) (hk : isBetween text sign)
    (hlt : r.sign < sign) :
    (digitsBefore text sign).within r.error.span
      = decide ((digitsBefore text sign).start < r.span.stop) := by
  have digits := (between_of_isBetween hk).digits
  have ⟨_, _, other⟩ := h.error_bounds
  have begins := h.error_le hk hlt
  have ends : r.error.span.stop = r.span.stop := rfl
  have := digits.nonempty
  have := digits.outside other
  rw [Span.within, Bool.eq_iff_iff]
  simp only [Bool.and_eq_true, decide_eq_true_eq]
  omega

theorem Reading.Found.within_span {whole : Span} (h : r.Found text)
    (hw : whole? text place = some whole) (hle : r.span.stop ≤ place) :
    whole.within r.span = decide (whole.start < r.span.stop) := by
  obtain ⟨next, point, run⟩ := whole?_spec hw
  have ⟨behind, longer, other⟩ := h.error_bounds
  have before := h.before
  have stands := (between_of_isBetween h.between).stands
  have := run.nonempty
  have := run.outside other
  have := run.outside (not_isDigit_sign stands r.sign (Nat.le_refl _) (by omega))
  have begins : r.span.start = r.value.whole.start := rfl
  rw [Span.within, Bool.eq_iff_iff]
  simp only [Bool.and_eq_true, decide_eq_true_eq]
  omega

-- Where the search stands, behind an expression or at the beginning: each sign whose digits are all
-- still to come is among the signs left.
structure Pending (text : List Char) (previous : Option Reading) (signs : List Nat) : Prop where
  found    : ∀ r ∈ previous, r.Found text
  between  : ∀ sign ∈ signs, isBetween text sign
  later    : ∀ r ∈ previous, ∀ sign ∈ signs, r.sign < sign
  sorted   : signs.Pairwise (· < ·)
  complete : ∀ sign, isBetween text sign → reached previous ≤ (digitsBefore text sign).start →
    sign ∈ signs

namespace Pending

theorem initial (text : List Char) : Pending text none (signs text) where
  found r hr         := by cases hr
  between sign hs    := (List.mem_filter.mp hs).2
  later r hr         := by cases hr
  sorted             := List.pairwise_lt_range.filter _
  complete sign hs _ := List.mem_filter.mpr ⟨List.mem_range.mpr (isBetween_lt hs), hs⟩

variable {previous : Option Reading} {signs : List Nat}

theorem edge (h : Pending text previous signs) : IsEdge Char.isDigit text (reached previous) := by
  cases previous
  case none   => exact .inl rfl
  case some r => exact .inr (h.found r rfl).error_bounds.2.2

theorem within_error (h : Pending text previous (sign :: signs)) :
    (previous.any fun r => (digitsBefore text sign).within r.error.span)
      = decide ((digitsBefore text sign).start < reached previous) := by
  cases previous
  case none => rfl
  case some r =>
    have hs := h.between sign List.mem_cons_self
    exact (h.found r rfl).within_error hs (h.later r rfl sign List.mem_cons_self)

theorem within_span {whole : Span} (h : Pending text previous signs)
    (hw : whole? text place = some whole) (hle : reached previous ≤ place) :
    previous.any (whole.within ·.span) = decide (whole.start < reached previous) := by
  cases previous
  case none   => rfl
  case some r => exact (h.found r rfl).within_span hw hle

theorem value_cases (h : Pending text previous signs)
    (hle : reached previous ≤ (digitsBefore text sign).start) :
    (∃ whole, whole? text (digitsBefore text sign).start = some whole ∧
      reached previous ≤ whole.start ∧
      value text previous sign = ⟨whole, some (digitsBefore text sign)⟩) ∨
    (value text previous sign = ⟨digitsBefore text sign, none⟩ ∧
      ∀ whole, whole? text (digitsBefore text sign).start = some whole →
        whole.start < reached previous) := by
  simp only [value]
  cases hw : whole? text (digitsBefore text sign).start
  case none => exact .inr ⟨rfl, fun _ hn => by cases hn⟩
  case some whole =>
    rw [Option.filter_some, h.within_span hw hle]
    by_cases hlt : whole.start < reached previous
    case pos =>
      refine .inr ⟨by simp [hlt], fun other he => ?_⟩
      cases he
      exact hlt
    case neg => exact .inl ⟨whole, rfl, Nat.le_of_not_lt hlt, by simp [hlt]⟩

theorem value_read (h : Pending text previous signs) (hs : isBetween text sign)
    (hle : reached previous ≤ (digitsBefore text sign).start) :
    let start := (value text previous sign).whole.start
    read? text start = some (reading text previous sign) ∧
      reached previous ≤ start ∧ start ≤ (digitsBefore text sign).start := by
  have between := between_of_isBetween hs
  obtain ⟨whole, hw, start, he⟩ | ⟨he, _⟩ := h.value_cases hle
  case inl =>
    have hd := decimal_whole hs hw
    obtain ⟨next, _, run⟩ := whole?_spec hw
    have := run.nonempty
    have read := read?_of_stop hs (run.inside _ (Nat.le_refl _) run.nonempty) (by rw [hd]; rfl)
    simp only [reading, he]
    exact ⟨hd ▸ read, start, by omega⟩
  case inr =>
    have hd := decimal_digitsBefore hs
    have digit := between.digits.inside _ (Nat.le_refl _) between.digits.nonempty
    have read := read?_of_stop hs digit (by rw [hd]; rfl)
    simp only [reading, he]
    exact ⟨hd ▸ read, hle, Nat.le_refl _⟩

theorem read?_before (h : Pending text previous (sign :: signs))
    (hle : reached previous ≤ (digitsBefore text sign).start) (hq : reached previous ≤ pos)
    (hlt : pos < (value text previous sign).whole.start) : read? text pos = none := by
  have hs := h.between sign List.mem_cons_self
  have between := between_of_isBetween hs
  have ⟨_, _, starts⟩ := h.value_read hs hle
  refine Option.eq_none_iff_forall_not_mem.mpr fun r hr => ?_
  have ⟨begins, origin⟩ := origin_of_read? hr h.edge hq
  have := between.digits.nonempty
  have fits := between.fits
  -- Another sign would have to stand behind this one, but none stands between the place and the sign
  -- that is read.
  have first : sign = r.sign := by
    have ⟨_, signless⟩ := not_isSign_of_read? hr
    obtain he | hm := List.mem_cons.mp (h.complete r.sign (between_of_read? hr).1 begins)
    · exact he.symm
    · have := List.rel_of_pairwise_cons h.sorted hm
      exact absurd between.stands (Bool.eq_false_iff.mp (signless sign (by omega) this))
  rw [← first] at origin
  obtain inside | ⟨whole, hw, ahead, inside⟩ := origin
  · omega
  · obtain ⟨other, hw', _, he⟩ | ⟨_, passed⟩ := h.value_cases hle
    · rw [hw] at hw'
      cases hw'
      rw [he] at hlt
      exact absurd inside (Nat.not_le.mpr hlt)
    · have := passed whole hw
      omega

theorem read?_last (h : Pending text previous []) (hq : reached previous ≤ pos) :
    read? text pos = none := by
  refine Option.eq_none_iff_forall_not_mem.mpr fun r hr => ?_
  have ⟨begins, _⟩ := origin_of_read? hr h.edge hq
  cases h.complete r.sign (between_of_read? hr).1 begins

theorem pass (h : Pending text previous (sign :: signs))
    (hlt : (digitsBefore text sign).start < reached previous) : Pending text previous signs where
  found := h.found
  between other ho := h.between other (List.mem_cons_of_mem _ ho)
  later r hr other ho := h.later r hr other (List.mem_cons_of_mem _ ho)
  sorted := h.sorted.of_cons
  complete other ho hle := by
    refine (List.mem_cons.mp (h.complete other ho hle)).resolve_left fun he => ?_
    rw [he] at hle
    omega

theorem take (h : Pending text previous (sign :: signs))
    (hle : reached previous ≤ (digitsBefore text sign).start) :
    Pending text (some (reading text previous sign)) signs := by
  have hs := h.between sign List.mem_cons_self
  have between := between_of_isBetween hs
  have ⟨read, begins, starts⟩ := h.value_read hs hle
  have ⟨found, behind, longer⟩ := found_of_read? read
  have fits := between.fits
  have := between.digits.nonempty
  exact {
    found r hr := Option.mem_some.mp hr ▸ found
    between other ho := h.between other (List.mem_cons_of_mem _ ho)
    later r hr other ho := Option.mem_some.mp hr ▸ List.rel_of_pairwise_cons h.sorted ho
    sorted := h.sorted.of_cons
    complete other ho ahead := by
      simp only [reached, Option.elim_some] at ahead
      refine (List.mem_cons.mp (h.complete other ho (by omega))).resolve_left fun he => ?_
      have passed : sign < (reading text previous sign).span.stop := longer
      rw [he] at ahead
      omega
  }

end Pending

theorem matchesAt_pattern (text : List Char) (pos : Nat) :
    pattern.matchesAt text.toArray pos = ((read? text pos).map Reading.finding).toList := by
  rw [matchesAt, matchAt?_pattern]
  cases hr : read? text pos
  case none => rfl
  case some r =>
    obtain ⟨_, ahead, longer⟩ := found_of_read? hr
    have ne : r.finding.span.stop ≠ pos := Nat.ne_of_gt (Nat.lt_trans ahead longer)
    simp only [Option.map_some, ne, if_false, Option.toList_some]

theorem findAfter_readings {previous : Option Reading} {signs : List Nat}
    (h : Pending text previous signs) :
    pattern.findAfter text.toArray (reached previous)
      = (readings text previous signs).map Reading.finding := by
  induction signs generalizing previous
  case nil =>
    refine findAfter_eq_nil fun q hq => ?_
    rw [matchesAt_pattern, h.read?_last hq]
    rfl
  case cons sign signs ih =>
    rw [readings, h.within_error]
    by_cases hlt : (digitsBefore text sign).start < reached previous
    case pos =>
      rw [if_pos (decide_eq_true hlt)]
      exact ih (h.pass hlt)
    case neg =>
      have hle := Nat.le_of_not_lt hlt
      have ⟨read, begins, starts⟩ := h.value_read (h.between sign List.mem_cons_self) hle
      have ⟨_, ahead, longer⟩ := found_of_read? read
      have fits := Nat.le_of_lt (lt_length_of_isAt (read?_eq_some_iff.mp read).1)
      have skipped : ∀ q, reached previous ≤ q → q < (value text previous sign).whole.start →
          pattern.matchesAt text.toArray q = [] := fun q hq hs => by
        rw [matchesAt_pattern, h.read?_before hle hq hs]
        rfl
      have found : pattern.matchesAt text.toArray (value text previous sign).whole.start
          = [(reading text previous sign).finding] := by
        rw [matchesAt_pattern, read]
        rfl
      rw [if_neg (by simpa using hlt), List.map_cons, ← ih (h.take hle),
        findAfter_of_forall_none begins skipped]
      exact findAfter_of_match fits found (Nat.lt_trans ahead longer)

theorem findAll_readings (text : List Char) :
    pattern.findAll text.toArray = (readings text none (signs text)).map Reading.finding := by
  rw [findAll_eq_findAfter]
  exact findAfter_readings (.initial text)

namespace Expression

def figures (e : Expression) : Nat :=
  (e.errorPlaces.dropWhile (· == '0')).length

def remark (e : Expression) (rule message : String) : Diagnostic where
  rule
  message := message ++ String.ofList e.text
  start   := e.span.start
  stop    := e.span.stop

def remarks (settings : Settings) (e : Expression) : List Diagnostic :=
  let counted := if e.errorWhole = ['0'] then e.figures else e.errorPlaces.length
  let limit := settings.integerDigits
  (if e.valuePlaces.length ≠ e.errorPlaces.length then
    [e.remark "uncertainty_decimal_places" "小数点以下の桁数が揃っていません: "] else []) ++
  (if settings.significantFigures < counted then
    [e.remark "uncertainty_significant_figures" <|
      "不確かさの有効数字が多すぎる可能性があります (" ++ toString e.figures ++ "桁): "] else []) ++
  (if limit < e.valueWhole.length ∧ limit < e.errorWhole.length then
    [e.remark "uncertainty_exponent_notation" "×10^n の表記を使ってください: "] else [])

theorem hasManyFigures_iff (e : Expression) (limit : Int) :
    e.hasManyFigures limit
      ↔ limit < (if e.errorWhole = ['0'] then e.figures else e.errorPlaces.length : Nat) := by
  rw [hasManyFigures]
  by_cases h : e.errorWhole = ['0']
  case neg => simp [h]
  case pos =>
    rw [if_pos (beq_iff_eq.mpr h), if_pos h]
    exact decide_eq_true_iff

theorem isLong_iff (e : Expression) (limit : Int) :
    e.isLong limit ↔ limit < e.valueWhole.length ∧ limit < e.errorWhole.length := by
  simp [isLong]

theorem check_eq_remarks (settings : Settings) (e : Expression) :
    e.check settings = e.remarks settings := by
  simp only [check, decimalPlaces, significantFigures, exponentNotation, hasManyFigures_iff,
    isLong_iff, bne_iff_ne]
  rfl

end Expression

end Uncertainty

namespace Segment

open Uncertainty

theorem filter_uncertainty_check (dictionary : Dictionary) (settings : Settings) (text : String) :
    (check dictionary settings text).filter (rules.contains ·.rule)
      = Uncertainty.check settings text.toList.toArray := by
  have others {found : List Diagnostic} {own : String} (ho : own ∉ rules)
      (h : ∀ d ∈ found, d.rule = own) : found.filter (rules.contains ·.rule) = [] :=
    List.filter_eq_nil_iff.mpr fun d hd => by simpa [h d hd] using ho
  have all : (Uncertainty.check settings text.toList.toArray).filter (rules.contains ·.rule)
      = Uncertainty.check settings text.toList.toArray :=
    List.filter_eq_self.mpr fun d hd => List.contains_iff_mem.mpr (rule_mem hd)
  rw [check, List.filter_append, List.filter_append, List.filter_append, all,
    others (by decide) fun _ => EmptyBrace.rule_eq,
    others (by decide) fun _ => ItalicVariable.rule_eq,
    others (by decide) fun _ => Phrase.rule_eq]
  simp

theorem pass_expressions (allows : AllowList) (dictionary : Dictionary) (settings : Settings)
    (text : String) :
    let chars := text.toList
    let expressions := (readings chars none (signs chars)).map (·.expression chars.toArray)
    (pattern.findAll chars.toArray).map (ofFinding chars.toArray) = expressions ∧
      (pass allows dictionary settings text).diagnostics.filter (rules.contains ·.rule)
        = if allows.exempts text then [] else expressions.flatMap (·.remarks settings) := by
  intro chars expressions
  have found : (pattern.findAll chars.toArray).map (ofFinding chars.toArray) = expressions := by
    rw [findAll_readings, List.map_map]
    exact List.map_congr_left fun r _ => ofFinding_finding chars.toArray r
  refine ⟨found, ?_⟩
  rw [pass]
  split
  case isTrue => rfl
  case isFalse =>
    rw [← found, ← funext (Expression.check_eq_remarks settings)]
    exact filter_uncertainty_check dictionary settings text

-- The number between two signs goes to the first one, or as much of it as that can take.
example :
    let found (text : String) :=
      (readings text.toList none (signs text.toList)).map fun r =>
        let e := r.expression text.toList.toArray
        (String.ofList e.text, String.ofList e.valueWhole, String.ofList e.valuePlaces)
    found "1\\pm2\\pm3" = [("1\\pm2", "1", "")] ∧
      found "1\\pm2.3.4\\pm5" = [("1\\pm2.3", "1", ""), ("4\\pm5", "4", "")] := by
  decide +kernel

end Segment

end Proofread
