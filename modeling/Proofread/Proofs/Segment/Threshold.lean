import Mathlib.Data.List.Flatten
import Proofread.Proofs.Segment.Figures

namespace Proofread

namespace Uncertainty

namespace Expression

variable {limit higher : Int} {e : Expression}

theorem hasManyFigures_mono (h : limit ≤ higher) (many : e.hasManyFigures higher) :
    e.hasManyFigures limit := by
  rw [hasManyFigures] at many ⊢
  split at many
  case isTrue zero     => simpa [zero] using Int.lt_of_le_of_lt h (of_decide_eq_true many)
  case isFalse nonzero => simpa [nonzero] using Int.lt_of_le_of_lt h (of_decide_eq_true many)

theorem isLong_mono (h : limit ≤ higher) (long : e.isLong higher) : e.isLong limit := by
  simp only [isLong, Bool.and_eq_true, decide_eq_true_eq] at long ⊢
  exact ⟨Int.lt_of_le_of_lt h long.1, Int.lt_of_le_of_lt h long.2⟩

theorem sublist_of_imp {strong weak : Bool} (imp : strong → weak) (found : List Diagnostic) :
    (if strong then found else []).Sublist (if weak then found else []) := by
  split
  case isTrue h  => exact if_pos (imp h) ▸ .refl found
  case isFalse h => exact List.nil_sublist _

theorem check_sublist {settings raised : Settings}
    (figures : settings.significantFigures ≤ raised.significantFigures)
    (digits : settings.integerDigits ≤ raised.integerDigits) (e : Expression) :
    (e.check raised).Sublist (e.check settings) := by
  have many : (e.significantFigures raised.significantFigures).Sublist
      (e.significantFigures settings.significantFigures) :=
    sublist_of_imp (hasManyFigures_mono figures) _
  have long : (e.exponentNotation raised.integerDigits).Sublist
      (e.exponentNotation settings.integerDigits) :=
    sublist_of_imp (isLong_mono digits) _
  exact ((List.Sublist.refl e.decimalPlaces).append many).append long

theorem decimalPlaces_rule {d : Diagnostic} (h : d ∈ e.decimalPlaces) :
    d.rule = "uncertainty_decimal_places" := by
  rw [decimalPlaces] at h
  split at h
  case isTrue  => exact List.mem_singleton.mp h ▸ rfl
  case isFalse => cases h

theorem significantFigures_rule {d : Diagnostic} (h : d ∈ e.significantFigures limit) :
    d.rule = "uncertainty_significant_figures" :=
  (mem_significantFigures.mp h).2 ▸ rfl

theorem exponentNotation_rule {d : Diagnostic} (h : d ∈ e.exponentNotation limit) :
    d.rule = "uncertainty_exponent_notation" := by
  rw [exponentNotation] at h
  split at h
  case isTrue  => exact List.mem_singleton.mp h ▸ rfl
  case isFalse => cases h

theorem filter_check (settings : Settings) (e : Expression) (keep : String → Bool) :
    (e.check settings).filter (keep ·.rule)
      = (if keep "uncertainty_decimal_places" then e.decimalPlaces else [])
        ++ (if keep "uncertainty_significant_figures" then
              e.significantFigures settings.significantFigures else [])
        ++ (if keep "uncertainty_exponent_notation" then
              e.exponentNotation settings.integerDigits else []) := by
  rw [check, List.filter_append, List.filter_append,
    Diagnostic.filter_of_rule fun _ => decimalPlaces_rule,
    Diagnostic.filter_of_rule fun _ => significantFigures_rule,
    Diagnostic.filter_of_rule fun _ => exponentNotation_rule]

end Expression

theorem check_sublist {settings raised : Settings}
    (figures : settings.significantFigures ≤ raised.significantFigures)
    (digits : settings.integerDigits ≤ raised.integerDigits) (text : Array Char) :
    (check raised text).Sublist (check settings text) :=
  List.Sublist.flatMap_right _ fun e _ => e.check_sublist figures digits

end Uncertainty

theorem ItalicVariable.check_congr {settings other : Settings}
    (same : settings.punctuation = other.punctuation) (text : Array Char) :
    check settings text = check other text := by
  have set : neighbour settings = neighbour other := by rw [neighbour, neighbour, same]
  rw [check, check, pattern, pattern, set]

namespace Segment

open Uncertainty

theorem filter_pass_congr {settings other : Settings} {rules : List String}
    (neighbours : settings.punctuation = other.punctuation)
    (figures : "uncertainty_significant_figures" ∉ rules →
      settings.significantFigures = other.significantFigures)
    (digits : "uncertainty_exponent_notation" ∉ rules →
      settings.integerDigits = other.integerDigits)
    (allows : AllowList) (dictionary : Dictionary) (text : String) :
    (pass allows dictionary settings text).diagnostics.filter (·.rule ∉ rules)
      = (pass allows dictionary other text).diagnostics.filter (·.rule ∉ rules) := by
  -- If a kind of remark is kept, its threshold is the same in both; if not, it does not matter.
  have each (e : Expression) :
      (e.check settings).filter (·.rule ∉ rules) = (e.check other).filter (·.rule ∉ rules) := by
    rw [e.filter_check settings (decide <| · ∉ rules), e.filter_check other (decide <| · ∉ rules)]
    simp only [decide_eq_true_eq]
    congr 1
    · exact congrArg _ <| ite_congr rfl (fun kept => by rw [figures kept]) fun _ => rfl
    · exact ite_congr rfl (fun kept => by rw [digits kept]) fun _ => rfl
  have uncertainty (chars : Array Char) : (Uncertainty.check settings chars).filter (·.rule ∉ rules)
      = (Uncertainty.check other chars).filter (·.rule ∉ rules) := by
    rw [Uncertainty.check, Uncertainty.check, List.filter_flatMap, List.filter_flatMap, funext each]
  simp only [diagnostics_pass, apply_ite (List.filter _), check, List.filter_append, uncertainty,
    ItalicVariable.check_congr neighbours]

theorem pass_thresholds {settings raised : Settings} (allows : AllowList) (dictionary : Dictionary)
    (text : String) (figures : settings.significantFigures ≤ raised.significantFigures)
    (digits : settings.integerDigits ≤ raised.integerDigits)
    (neighbours : settings.punctuation = raised.punctuation) :
    let found (settings : Settings) := (pass allows dictionary settings text).diagnostics
    let rest (rules : List String) (settings : Settings) := (found settings).filter (·.rule ∉ rules)
    (found raised).Sublist (found settings) ∧
      rest ["uncertainty_significant_figures", "uncertainty_exponent_notation"] raised
        = rest ["uncertainty_significant_figures", "uncertainty_exponent_notation"] settings ∧
      (∀ limit,
        rest ["uncertainty_significant_figures"] { settings with significantFigures := limit }
          = rest ["uncertainty_significant_figures"] settings) ∧
      (∀ limit, rest ["uncertainty_exponent_notation"] { settings with integerDigits := limit }
        = rest ["uncertainty_exponent_notation"] settings) := by
  intro found rest
  refine ⟨?fewer, ?others, fun limit => ?figures, fun limit => ?digits⟩
  case fewer =>
    simp only [found, diagnostics_pass, check, ItalicVariable.check_congr neighbours]
    split
    case isTrue  => exact .refl []
    case isFalse => exact ((check_sublist figures digits _).append_left _).append_right _
  case others  => exact filter_pass_congr neighbours.symm (by simp) (by simp) allows dictionary text
  case figures => exact filter_pass_congr (by rfl) (by simp) (by simp) allows dictionary text
  case digits  => exact filter_pass_congr (by rfl) (by simp) (by simp) allows dictionary text

theorem pass_thresholds_raised :
    let text := "100.01 \\pm 100.001"
    let settings : Settings := { significantFigures := -1, integerDigits := 2 }
    let raised : Settings := { significantFigures := 3, integerDigits := 3 }
    let found (settings : Settings) := (pass [] [] settings text).diagnostics
    let rules (settings : Settings) := (found settings).map (·.rule)
    settings.significantFigures ≤ raised.significantFigures ∧
      settings.integerDigits ≤ raised.integerDigits ∧ settings.punctuation = raised.punctuation ∧
      (found raised).Sublist (found settings) ∧ rules raised = ["uncertainty_decimal_places"] ∧
      rules settings = Uncertainty.rules := by
  intro text settings raised found rules
  have figures : settings.significantFigures ≤ raised.significantFigures := by decide
  have digits : settings.integerDigits ≤ raised.integerDigits := by decide
  exact ⟨figures, digits, rfl, (pass_thresholds [] [] text figures digits rfl).1,
    by decide +kernel, by decide +kernel⟩

end Segment

end Proofread
