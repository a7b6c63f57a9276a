import Proofread.Proofs.Pattern.Scan
import Proofread.Segment

namespace Proofread

theorem Diagnostic.filter_of_rule {found : List Diagnostic} {own : String}
    (h : ∀ d ∈ found, d.rule = own) (keep : String → Bool) :
    found.filter (keep ·.rule) = if keep own then found else [] := by
  split
  case isTrue kept     => exact List.filter_eq_self.mpr fun d hd => (h d hd).symm ▸ kept
  case isFalse dropped => exact List.filter_eq_nil_iff.mpr fun d hd => (h d hd).symm ▸ dropped

theorem EmptyBrace.rule_eq {text : Array Char} {d : Diagnostic} (h : d ∈ EmptyBrace.check text) :
    d.rule = "empty_brace" := by
  have ⟨_, _, h⟩ := List.mem_map.mp h
  exact h ▸ rfl

theorem ItalicVariable.rule_eq {settings : Settings} {text : Array Char} {d : Diagnostic}
    (h : d ∈ ItalicVariable.check settings text) : d.rule = "italic_variable" := by
  have ⟨_, _, h⟩ := List.mem_filterMap.mp h
  have ⟨_, _, h⟩ := Option.map_eq_some_iff.mp h
  exact h ▸ rfl

def Uncertainty.rules : List String :=
  ["uncertainty_decimal_places", "uncertainty_significant_figures", "uncertainty_exponent_notation"]

theorem Uncertainty.rule_mem {settings : Settings} {text : Array Char} {d : Diagnostic}
    (h : d ∈ Uncertainty.check settings text) : d.rule ∈ rules := by
  have ⟨e, _, h⟩ := List.mem_flatMap.mp h
  simp only [Expression.check, Expression.decimalPlaces, Expression.significantFigures,
    Expression.exponentNotation, List.mem_append] at h
  obtain (h | h) | h := h <;> split at h <;> simp at h <;> simp [rules, h, Expression.diagnostic]

theorem Phrase.rule_eq {dictionary : Dictionary} {text : Array Char} {d : Diagnostic}
    (h : d ∈ Phrase.check dictionary text) : d.rule = "dictionary" := by
  have ⟨_, _, h⟩ := List.mem_flatMap.mp h
  have ⟨_, _, h⟩ := List.mem_map.mp h
  exact h ▸ rfl

namespace Segment

theorem pass_of_allows_nil (dictionary : Dictionary) (settings : Settings) (text : String) :
    (pass [] dictionary settings text).diagnostics = check dictionary settings text := by
  simp [pass, AllowList.exempts]

theorem diagnostics_pass (allows : AllowList) (dictionary : Dictionary) (settings : Settings)
    (text : String) :
    (pass allows dictionary settings text).diagnostics
      = if allows.exempts text then [] else check dictionary settings text := by
  rw [pass]
  split <;> rfl

-- Each check has rules of its own, so a rule tells whose finding a diagnostic is.
theorem filter_check (dictionary : Dictionary) (settings : Settings) (text : String)
    (rule : String) :
    (check dictionary settings text).filter (·.rule == rule)
      = if rule = "empty_brace" then EmptyBrace.check text.toList.toArray
        else if rule = "italic_variable" then ItalicVariable.check settings text.toList.toArray
        else if rule = "dictionary" then Phrase.check dictionary text.toList.toArray
        else (Uncertainty.check settings text.toList.toArray).filter (·.rule == rule) := by
  have one {found : List Diagnostic} {own : String} (h : ∀ d ∈ found, d.rule = own) :
      found.filter (·.rule == rule) = if rule = own then found else [] := by
    simpa only [beq_iff_eq, @eq_comm _ rule] using Diagnostic.filter_of_rule h (· == rule)
  have other (h : rule = "empty_brace" ∨ rule = "italic_variable" ∨ rule = "dictionary") :
      (Uncertainty.check settings text.toList.toArray).filter (·.rule == rule) = [] := by
    refine List.filter_eq_nil_iff.mpr fun d hd => ?_
    have := Uncertainty.rule_mem hd
    rcases h with rfl | rfl | rfl <;> rw [beq_iff_eq] <;> intro h <;> simp [Uncertainty.rules, h] at this
  simp only [check, List.filter_append, one fun _ => EmptyBrace.rule_eq,
    one fun _ => ItalicVariable.rule_eq, one fun _ => Phrase.rule_eq]
  split
  case isTrue h => rw [other (.inl h)]; simp [h]
  case isFalse =>
    split
    case isTrue h => rw [other (.inr (.inl h))]; simp [h]
    case isFalse =>
      split
      case isTrue h  => rw [other (.inr (.inr h))]; simp
      case isFalse h => simp

theorem filter_dictionary_check (dictionary : Dictionary) (settings : Settings) (text : String) :
    (check dictionary settings text).filter (·.rule == "dictionary")
      = Phrase.check dictionary text.toList.toArray := by
  rw [filter_check]
  rfl

end Segment

namespace Phrase

def message (entry : Dictionary.Entry) : String :=
  "\"" ++ entry.incorrect ++ "\" -?> \"" ++ entry.correct ++ "\""

theorem filter_message_check (dictionary : Dictionary) (text : Array Char) (said : String) :
    (check dictionary text).filter (·.message == said)
      = check (dictionary.filter (message · == said)) text := by
  have each (entry : Dictionary.Entry) : (checkEntry text entry).filter (·.message == said)
      = if message entry == said then checkEntry text entry else [] := by
    have same (d) (hd : d ∈ checkEntry text entry) : d.message = message entry := by
      have ⟨_, _, h⟩ := List.mem_map.mp hd
      exact h ▸ rfl
    split
    case isTrue h  => exact List.filter_eq_self.mpr fun d hd => same d hd ▸ h
    case isFalse h => exact List.filter_eq_nil_iff.mpr fun d hd => same d hd ▸ h
  induction dictionary
  case nil => rfl
  case cons entry dictionary ih =>
    simp only [check, List.flatMap_cons, List.filter_append, List.filter_cons, each] at ih ⊢
    rw [ih]
    split <;> rfl

theorem checkEntry_range (text : Array Char) (entry : Dictionary.Entry) :
    (checkEntry text entry).map (·.range)
      = ((entry.pattern.findAll text).map (·.span)).map fun span => (↑span.start, ↑span.stop) := by
  simp [checkEntry, diagnostic, Diagnostic.range]

-- The entries are looked for one by one, so places of different entries may overlap.
theorem dictionary_diagnostics_scan (dictionary : Dictionary) (settings : Settings)
    (text : String) :
    let found := (Segment.pass [] dictionary settings text).diagnostics
    let chars := text.toList.toArray
    found.filter (·.rule == "dictionary") = dictionary.flatMap (checkEntry chars) ∧
      ∀ entry, ∃ spans : List Span,
        (checkEntry chars entry).map (·.range) = spans.map (fun s => (↑s.start, ↑s.stop)) ∧
          entry.pattern.IsScan chars spans := by
  refine ⟨?groups, fun entry => ⟨_, checkEntry_range _ entry, entry.pattern.findAll_isScan _⟩⟩
  case groups =>
    rw [Segment.pass_of_allows_nil, Segment.filter_dictionary_check]
    rfl

end Phrase
end Proofread
