import Proofread.Proofs.Segment.Phrase

namespace Proofread

namespace Segment

def block (allows : AllowList) (text : String) (entry : Dictionary.Entry) : List Diagnostic :=
  if allows.exempts text then [] else Phrase.checkEntry text.toList.toArray entry

variable (allows : AllowList) (settings : Settings) (text : String)

theorem diagnostics_pass_blocks (dictionary : Dictionary) :
    (pass allows dictionary settings text).diagnostics
      = (pass allows [] settings text).diagnostics ++ dictionary.flatMap (block allows text) := by
  rw [diagnostics_pass, diagnostics_pass]
  by_cases exempt : allows.exempts text
  case pos => simp [block, exempt]
  case neg =>
    have each : block allows text = Phrase.checkEntry text.toList.toArray :=
      funext fun _ => if_neg exempt
    simp [each, exempt, check, Phrase.check]

theorem block_rule {entry : Dictionary.Entry} {d : Diagnostic} (h : d ∈ block allows text entry) :
    d.rule = "dictionary" := by
  rw [block] at h
  split at h
  case isTrue  => cases h
  case isFalse =>
    have found : d ∈ Phrase.check [entry] text.toList.toArray := by simpa [Phrase.check] using h
    exact Phrase.rule_eq found

theorem rule_of_mem_pass_nil {d : Diagnostic}
    (h : d ∈ (pass allows [] settings text).diagnostics) : d.rule ≠ "dictionary" := by
  have none : (pass allows [] settings text).diagnostics.filter (·.rule == "dictionary") = [] := by
    rw [diagnostics_pass, apply_ite (List.filter _), filter_dictionary_check]
    exact ite_self []
  simpa using List.filter_eq_nil_iff.mp none d h

theorem filter_not_dictionary_pass (dictionary : Dictionary) :
    (pass allows dictionary settings text).diagnostics.filter (·.rule != "dictionary")
      = (pass allows [] settings text).diagnostics := by
  have others : ∀ d ∈ (pass allows [] settings text).diagnostics, (d.rule != "dictionary") = true :=
    fun d hd => bne_iff_ne.mpr (rule_of_mem_pass_nil allows settings text hd)
  have blocks : ∀ d ∈ dictionary.flatMap (block allows text), d.rule = "dictionary" := by
    intro d hd
    have ⟨entry, _, hd⟩ := List.mem_flatMap.mp hd
    exact block_rule allows text hd
  have dropped := Diagnostic.filter_of_rule blocks (· != "dictionary")
  rw [diagnostics_pass_blocks, List.filter_append, List.filter_eq_self.mpr others]
  exact (congrArg _ dropped).trans (List.append_nil _)

end Segment

end Proofread
