import Proofread.Dictionary.Basic
import Proofread.Proofs.Segment.Phrase

namespace Proofread

namespace Uncertainty

-- The count that a message gives in brackets, in front of the counter `桁`.
def shown? (message : String) : Option Nat :=
  let inner  := (message.toList.dropWhile (· != '(')).drop 1
  let digits := inner.takeWhile Char.isDigit
  if inner[digits.length]? = some '桁' then some (Nat.ofDigitChars 10 digits 0) else none

namespace Expression

variable {e : Expression} {limit : Int} {d : Diagnostic}

theorem mem_significantFigures :
    d ∈ e.significantFigures limit ↔
      e.hasManyFigures limit ∧ d = e.diagnostic "uncertainty_significant_figures"
        ("不確かさの有効数字が多すぎる可能性があります (" ++ toString e.significant.length ++ "桁): ") := by
  rw [significantFigures]
  split <;> simp_all

theorem shown?_figures (e : Expression) (count : Nat) :
    shown? (e.diagnostic "uncertainty_significant_figures"
      ("不確かさの有効数字が多すぎる可能性があります (" ++ toString count ++ "桁): ")).message
        = some count := by
  have digits : (Nat.toDigits 10 count ++ '桁' :: ')' :: ':' :: ' ' :: e.text).takeWhile Char.isDigit
      = Nat.toDigits 10 count := by
    rw [List.takeWhile_append_of_pos fun c hc =>
      Nat.isDigit_of_mem_toDigits (by decide) (by decide) hc]
    simp
  simp [shown?, diagnostic, digits]

theorem length_significant_le (e : Expression) : e.significant.length ≤ e.errorPlaces.length :=
  (List.dropWhile_suffix _).length_le

theorem significant_eq (h : e.errorPlaces.head? ≠ some '0') : e.significant = e.errorPlaces := by
  rw [significant]
  cases he : e.errorPlaces
  case nil            => rfl
  case cons first rest =>
    rw [he, List.head?_cons] at h
    exact List.dropWhile_cons_of_neg (by simpa using h)

theorem lt_errorPlaces (h : e.hasManyFigures limit) : limit < e.errorPlaces.length := by
  have := e.length_significant_le
  rw [hasManyFigures] at h
  split at h <;> simp only [decide_eq_true_eq] at h <;> omega

theorem lt_significant (h : e.hasManyFigures limit)
    (same : e.errorWhole = ['0'] ∨ e.errorPlaces.head? ≠ some '0') :
    limit < e.significant.length := by
  obtain zero | nonzero := same
  case inl => simpa [hasManyFigures, zero] using h
  case inr => exact significant_eq nonzero ▸ lt_errorPlaces h

theorem filter_figures (settings : Settings) (e : Expression) :
    (e.check settings).filter (·.rule == "uncertainty_significant_figures")
      = e.significantFigures settings.significantFigures := by
  simp only [check, decimalPlaces, significantFigures, exponentNotation, List.filter_append,
    apply_ite (List.filter _)]
  simp [diagnostic]

end Expression

theorem filter_check_figures (settings : Settings) (text : Array Char) :
    (check settings text).filter (·.rule == "uncertainty_significant_figures")
      = ((pattern.findAll text).map (ofFinding text)).flatMap
          (·.significantFigures settings.significantFigures) := by
  rw [check, List.filter_flatMap]
  exact congrArg (List.flatMap · _) (funext (Expression.filter_figures settings))

end Uncertainty

namespace Segment

open Uncertainty

-- The message counts the decimal places without leading zeros. The limit does so too when the whole
-- part is zero, and counts all of them otherwise.
theorem pass_figures {allows : AllowList} {dictionary : Dictionary} {settings : Settings}
    {text : String} {d : Diagnostic} (h : d ∈ (pass allows dictionary settings text).diagnostics)
    (rule : d.rule = "uncertainty_significant_figures") :
    let chars := text.toList.toArray
    ∃ e ∈ (pattern.findAll chars).map (ofFinding chars),
      d.range = (↑e.span.start, ↑e.span.stop) ∧ shown? d.message = some e.significant.length ∧
        settings.significantFigures < e.errorPlaces.length ∧
        (e.errorWhole = ['0'] ∨ e.errorPlaces.head? ≠ some '0' →
          settings.significantFigures < e.significant.length) := by
  intro chars
  rw [diagnostics_pass] at h
  split at h
  case isTrue => cases h
  case isFalse =>
    have found : d ∈ (check dictionary settings text).filter
        (·.rule == "uncertainty_significant_figures") := List.mem_filter.mpr ⟨h, by simp [rule]⟩
    rw [filter_check] at found
    change d ∈ (Uncertainty.check settings chars).filter _ at found
    rw [filter_check_figures] at found
    obtain ⟨e, he, hd⟩ := List.mem_flatMap.mp found
    obtain ⟨many, rfl⟩ := Expression.mem_significantFigures.mp hd
    exact ⟨e, he, rfl, e.shown?_figures _, Expression.lt_errorPlaces many,
      Expression.lt_significant many⟩

-- The whole part is zero, and the zero behind the point counts neither for the limit nor in the message.
theorem pass_figures_of_zero :
    let text  := "1.2345\\pm0.0123"
    let chars := text.toList.toArray
    let d : Diagnostic := ⟨"uncertainty_significant_figures",
      "不確かさの有効数字が多すぎる可能性があります (3桁): 1.2345\\pm0.0123", 0, 15⟩
    d ∈ (pass [] .builtin {} text).diagnostics ∧ d.rule = "uncertainty_significant_figures" ∧
      ∃ e ∈ (pattern.findAll chars).map (ofFinding chars),
        d.range = (↑e.span.start, ↑e.span.stop) ∧ shown? d.message = some e.significant.length ∧
          (2 : Int) < e.significant.length := by
  intro text chars d
  have h : d ∈ (pass [] .builtin {} text).diagnostics := by decide +kernel
  have zero : ∀ e ∈ (pattern.findAll chars).map (ofFinding chars), e.errorWhole = ['0'] := by
    decide +kernel
  obtain ⟨e, he, range, shown, _, beyond⟩ := pass_figures h rfl
  exact ⟨h, rfl, e, he, range, shown, beyond (.inl (zero e he))⟩

theorem figures_shown_within_limit :
    let settings : Settings := {}
    let d : Diagnostic := ⟨"uncertainty_significant_figures",
      "不確かさの有効数字が多すぎる可能性があります (1桁): 1.001 \\pm 1.001", 0, 15⟩
    0 ≤ settings.significantFigures ∧
      d ∈ (pass [] .builtin settings "1.001 \\pm 1.001").diagnostics ∧
      d.rule = "uncertainty_significant_figures" ∧ shown? d.message = some 1 ∧
      ¬settings.significantFigures < 1 := by
  decide +kernel

end Segment

end Proofread
