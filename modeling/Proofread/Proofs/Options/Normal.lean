import Proofread.Proofs.Files.Path
import Proofread.Proofs.Options.Issues
import Proofread.Rule

namespace Proofread.Options

open Validation

def IsNormal (options : Options) : Prop :=
  ∀ path ∈ options.dictionaryPath, path.IsNormal

theorem readPath_isNormal {value : Json} {path : Files.Path} (h : readPath value = .ok (some path)) :
    path.IsNormal := by
  cases value
  case string text =>
    cases h
    exact Files.Path.ofString_isNormal text
  all_goals cases h

section

variable {α : Type} {members : Members} {name : String} {default : α} {read : Json → Checked α}

theorem member_cases {found : α} (h : member members name default read = .ok found) :
    (members.get? (.text name) = none ∧ found = default) ∨
      ∃ value, members.get? (.text name) = some value ∧ read value = .ok found := by
  rw [member] at h
  cases hv : members.get? (.text name) <;> rw [hv] at h
  case none => exact .inl ⟨rfl, (Except.ok.inj h).symm⟩
  case some value =>
    refine .inr ⟨value, rfl, ?_⟩
    cases hr : read value <;> simp only [hr, Checked.under] at h
    case ok    => exact h
    case error => cases h

theorem member_of_get? {value : Json} {found : α} (hv : members.get? (.text name) = some value)
    (h : read value = .ok found) : member members name default read = .ok found := by
  rw [member, hv]
  simp only [h, Checked.under]

end

theorem ofMembers_isNormal {members : Members} {options : Options}
    (h : ofMembers members = .ok options) : options.IsNormal := by
  have ⟨_, hp, _⟩ := ofMembers_eq_ok_iff.mp h
  intro path named
  rw [Option.mem_def.mp named] at hp
  obtain ⟨_, none⟩ | ⟨value, _, read⟩ := member_cases hp
  case inl => cases none
  case inr => exact readPath_isNormal read

theorem readAllows_texts (allows : AllowList) :
    readAllows (.array (allows.map .string)) = .ok allows := by
  refine checkItems_eq_ok_iff.mpr (List.forall₂_map_left_iff.mpr ?_)
  exact List.forall₂_same.mpr fun _ _ => rfl

theorem readPath_written {path : Option Files.Path} (h : ∀ p ∈ path, p.IsNormal) :
    readPath (path.elim .null fun path => .string path.toString) = .ok path := by
  cases path
  case none   => rfl
  case some p =>
    have same := Files.Path.ofString_toString (h p rfl)
    simp [readPath, same]

theorem ofMembers_members {options : Options} (h : options.IsNormal) :
    ofMembers (.ofObject options.members) = .ok options := by
  refine ofMembers_eq_ok_iff.mpr ⟨?_, ?_, ?_, ?_, ?_, ?_⟩
  · exact member_of_get? rfl (readAllows_texts options.allows)
  · exact member_of_get? rfl (readPath_written h)
  · exact member_of_get? rfl rfl
  · exact member_of_get? rfl rfl
  · exact member_of_get? rfl rfl
  · rfl

theorem ofJson_of_options {members : Json.Members} {options : Options}
    (h : ofJson (.object members) = .ok options) (store : Files.Store) :
    Rule.ofJson store (.object members) = Rule.ofOptions store options := by
  have read : ofMembers (.ofObject members) = .ok options := h
  show Rule.ofMembers store (.ofObject members) = _
  rw [Rule.ofMembers, read]
  rfl

theorem readInteger_of_readCount {value : Json} {n : Nat} (h : readCount value = .ok n) :
    readInteger value = .ok n := by
  rw [readCount] at h
  split at h
  case h_1 m hm => exact Except.ok.inj h ▸ hm
  all_goals cases h

theorem readInteger_of_member {members : Json.Members} {name : String} {default n : Nat}
    (h : member (.ofObject members) name default (ofCause <| readCount ·) = .ok n) {value : Json}
    (given : members.get? name = some value) : readInteger value = .ok n := by
  obtain ⟨none, _⟩ | ⟨found, hv, read⟩ := member_cases h
  case inl => cases given.symm.trans ((get?_ofObject members name).symm.trans none)
  case inr =>
    cases given.symm.trans ((get?_ofObject members name).symm.trans hv)
    refine readInteger_of_readCount ?_
    cases hc : readCount value <;> rw [hc] at read <;> cases read
    rfl

theorem ofJson_members {given : Json.Members} {options : Options}
    (h : ofJson (.object given) = .ok options) :
    ofJson (.object options.members) = .ok options ∧
    (∀ again, ofJson (.object options.members) = .ok again → again.settings = options.settings ∧
      ∀ store, again.dictionary store = options.dictionary store) ∧
    (∀ store, Rule.ofJson store (.object options.members) = Rule.ofJson store (.object given)) ∧
    options.settings = ⟨options.significantFigures, options.integerDigits, options.punctuation⟩ ∧
    (0 ≤ options.settings.significantFigures ∧ 0 ≤ options.settings.integerDigits) ∧
    (∀ value, given.get? significantFiguresName = some value →
      readInteger value = .ok options.settings.significantFigures) ∧
    (∀ value, given.get? integerDigitsName = some value →
      readInteger value = .ok options.settings.integerDigits) := by
  -- Only what is in normal form reads back, and whatever was accepted is.
  have written : ofJson (.object options.members) = .ok options :=
    ofMembers_members (ofMembers_isNormal h)
  have ⟨_, _, figures, digits, _⟩ := ofMembers_eq_ok_iff.mp h
  refine ⟨written, fun again ha => ?again, fun store => ?rule, rfl, ?positive,
    fun _ => readInteger_of_member figures, fun _ => readInteger_of_member digits⟩
  case again =>
    cases written.symm.trans ha
    exact ⟨rfl, fun _ => rfl⟩
  case rule => rw [ofJson_of_options written, ofJson_of_options h]
  case positive => exact ⟨Int.natCast_nonneg _, Int.natCast_nonneg _⟩

-- Three slashes in front count as one, and a whole number may be a text.
theorem ofJson_members_mixed :
    let given : Json.Members :=
      [("dictionary_path", .string "///a/.//b/"), ("italic_include_punctuation", .string "YES"),
        ("max_integer_digits", .string " +0_7.00\n"),
        ("max_uncertainty_significant_figures", .bool true)]
    let options : Options := ⟨[], some ⟨.one, ["a", "b"]⟩, 1, 7, true⟩
    ofJson (.object given) = .ok options ∧ ofJson (.object options.members) = .ok options ∧
      options.members = [("allows", .array []), ("dictionary_path", .string "/a/b"),
        ("max_uncertainty_significant_figures", .integer 1), ("max_integer_digits", .integer 7),
        ("italic_include_punctuation", .bool true)] := by
  intro given options
  have accepted : ofJson (.object given) = .ok options := by decide +kernel
  exact ⟨accepted, (ofJson_members accepted).1, rfl⟩

end Proofread.Options
