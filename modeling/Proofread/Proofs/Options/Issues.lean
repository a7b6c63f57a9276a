import Proofread.Options
import Proofread.Proofs.Validation

namespace Proofread.Options

open Validation

-- The known options in their order, each with what is wrong with a value of it.
def readers : List (String × (Json → List Issue)) :=
  [(allowsName, fun value => (readAllows value).issues),
   (dictionaryPathName, fun value => (readPath value).issues),
   (significantFiguresName, fun value => (ofCause (readCount value)).issues),
   (integerDigitsName, fun value => (ofCause (readCount value)).issues),
   (punctuationName, fun value => (ofCause (readBool value)).issues)]

theorem names_eq : names = readers.map (·.1) :=
  rfl

theorem names_nodup : names.Nodup := by
  decide

section

variable {α : Type}

theorem ofCause_explained (result : Except Cause α) : (ofCause result).Explained := by
  cases result <;> exact fun he => nomatch he

theorem ofCause_issues (result : Except Cause α) :
    (ofCause result).issues = [] ∨ ∃ cause, (ofCause result).issues = [⟨cause, []⟩] := by
  cases result
  case ok          => exact .inl rfl
  case error cause => exact .inr ⟨cause, rfl⟩

theorem readText_explained (value : Json) : (readText value).Explained := by
  cases value <;> exact fun he => nomatch he

theorem readAllows_explained (value : Json) : (readAllows value).Explained := by
  cases value
  case array items => exact checkItems_explained readText_explained items
  all_goals exact fun he => nomatch he

theorem readPath_explained (value : Json) : (readPath value).Explained := by
  cases value <;> exact fun he => nomatch he

theorem readPath_issues (value : Json) :
    (readPath value).issues = [] ∨ ∃ cause, (readPath value).issues = [⟨cause, []⟩] := by
  cases value
  case null | string => exact .inl rfl
  all_goals exact .inr ⟨_, rfl⟩

-- All but the list of phrases are told of in one issue, about the option as a whole.
theorem readers_issues {reader : String × (Json → List Issue)} (hr : reader ∈ readers)
    (hn : reader.1 ≠ allowsName) (value : Json) :
    reader.2 value = [] ∨ ∃ cause, reader.2 value = [⟨cause, []⟩] := by
  simp only [readers, List.mem_cons, List.not_mem_nil, or_false] at hr
  obtain rfl | rfl | rfl | rfl | rfl := hr
  · exact absurd rfl hn
  · exact readPath_issues value
  · exact ofCause_issues _
  · exact ofCause_issues _
  · exact ofCause_issues _

theorem member_issues (members : Members) (name : String) (default : α) (read : Json → Checked α) :
    (member members name default read).issues
      = ((members.get? (.text name)).elim [] fun value => (read value).issues).map
          (·.under (.member name)) := by
  rw [member]
  cases members.get? (.text name)
  case none       => rfl
  case some value => exact Checked.issues_under _ _

theorem member_explained (members : Members) (name : String) (default : α)
    {read : Json → Checked α} (h : ∀ value, (read value).Explained) :
    (member members name default read).Explained := by
  rw [member]
  cases members.get? (.text name)
  case none       => exact fun he => nomatch he
  case some value => exact (h value).under _

end

theorem ofMembers_eq_ok_iff {members : Members} {options : Options} :
    ofMembers members = .ok options ↔
      member members allowsName [] readAllows = .ok options.allows ∧
      member members dictionaryPathName none readPath = .ok options.dictionaryPath ∧
      member members significantFiguresName 2 (ofCause <| readCount ·)
        = .ok options.significantFigures ∧
      member members integerDigitsName 2 (ofCause <| readCount ·) = .ok options.integerDigits ∧
      member members punctuationName false (ofCause <| readBool ·) = .ok options.punctuation ∧
      members.filterMap (unknown? ·.1) = [] := by
  simp only [ofMembers]
  split
  case h_1 ha hp hs hi hb hu =>
    rw [ha, hp, hs, hi, hb]
    cases options
    simp [hu]
  case h_2 none =>
    constructor
    case mp  => exact fun he => nomatch he
    case mpr =>
      rintro ⟨ha, hp, hs, hi, hb, hu⟩
      exact (none _ _ _ _ _ ha hp hs hi hb hu).elim

def knownIssues (members : Members) : List Issue :=
  readers.flatMap fun reader =>
    ((members.get? (.text reader.1)).elim [] reader.2).map (·.under (.member reader.1))

theorem knownIssues_eq (members : Members) :
    knownIssues members
      = (member members allowsName [] readAllows).issues
        ++ (member members dictionaryPathName none readPath).issues
        ++ (member members significantFiguresName 2 (ofCause <| readCount ·)).issues
        ++ (member members integerDigitsName 2 (ofCause <| readCount ·)).issues
        ++ (member members punctuationName false (ofCause <| readBool ·)).issues := by
  simp [knownIssues, readers, member_issues]

theorem ofMembers_cases (members : Members) :
    let issues := knownIssues members ++ members.filterMap (unknown? ·.1)
    (issues = [] ∧ ∃ options, ofMembers members = .ok options) ∨
      (issues ≠ [] ∧ ofMembers members = .error ⟨.options, issues⟩) := by
  intro issues
  have accepted : issues = [] ↔ ∃ options, ofMembers members = .ok options := by
    simp only [issues, knownIssues_eq, List.append_eq_nil_iff, ofMembers_eq_ok_iff]
    rw [(member_explained members _ _ readAllows_explained).issues_eq_nil_iff,
      (member_explained members _ _ readPath_explained).issues_eq_nil_iff,
      (member_explained members _ _ fun _ => ofCause_explained _).issues_eq_nil_iff,
      (member_explained members _ _ fun _ => ofCause_explained _).issues_eq_nil_iff,
      (member_explained members _ _ fun _ => ofCause_explained _).issues_eq_nil_iff]
    constructor
    · rintro ⟨⟨⟨⟨⟨⟨a, ha⟩, p, hp⟩, s, hs⟩, i, hi⟩, b, hb⟩, hu⟩
      exact ⟨⟨a, p, s, i, b⟩, ha, hp, hs, hi, hb, hu⟩
    · rintro ⟨options, ha, hp, hs, hi, hb, hu⟩
      exact ⟨⟨⟨⟨⟨⟨_, ha⟩, _, hp⟩, _, hs⟩, _, hi⟩, _, hb⟩, hu⟩
  by_cases none : issues = []
  case pos => exact .inl ⟨none, accepted.mp none⟩
  case neg =>
    refine .inr ⟨none, ?_⟩
    cases he : ofMembers members
    case ok options => exact absurd (accepted.mpr ⟨options, he⟩) none
    case error report =>
      simp only [ofMembers] at he
      split at he
      case h_1 => cases he
      case h_2 => rw [← he]; simp only [issues, knownIssues_eq]

section

variable (members : Json.Members)

def issues : List Issue :=
  match ofJson (.object members) with
  | .ok _         => []
  | .error report => report.issues

def unknownIssues : List Issue :=
  (members.filter (·.1 ∉ names)).map fun member => ⟨.unknownMember, [.member member.1]⟩

theorem get?_ofObject (name : String) :
    (Members.ofObject members).get? (.text name) = members.get? name := by
  induction members
  case nil => rfl
  case cons member members ih =>
    obtain ⟨other, value⟩ := member
    have same : (Key.text name == Key.text other) = (name == other) := by
      rw [Bool.eq_iff_iff]
      simp
    simp only [Members.ofObject, Table.get?, List.map_cons, List.lookup_cons] at ih ⊢
    rw [same, ih]

theorem filterMap_unknown?_ofObject :
    (Members.ofObject members).filterMap (unknown? ·.1) = unknownIssues members := by
  induction members
  case nil => rfl
  case cons member members ih =>
    have head : unknown? (.text member.1)
        = if member.1 ∈ names then none else some ⟨.unknownMember, [.member member.1]⟩ := by
      simp [unknown?]
    simp only [unknownIssues, Members.ofObject] at ih ⊢
    simp only [List.map_cons, List.filterMap_cons, head, ih, List.filter_cons]
    split <;> simp_all

theorem issues_eq_append :
    issues members = knownIssues (.ofObject members) ++ unknownIssues members := by
  rw [← filterMap_unknown?_ofObject]
  obtain ⟨none, options, ho⟩ | ⟨_, he⟩ := ofMembers_cases (.ofObject members)
  case inl => simp only [issues, ofJson, ho, none]
  case inr => simp only [issues, ofJson, he]

theorem ofJson_cases :
    (issues members = [] ∧ ∃ options, ofJson (.object members) = .ok options) ∨
      (issues members ≠ [] ∧ ofJson (.object members) = .error ⟨.options, issues members⟩) := by
  rw [issues_eq_append, ← filterMap_unknown?_ofObject]
  exact ofMembers_cases (.ofObject members)

theorem issues_eq_nil_iff :
    issues members = [] ↔ ∃ options, ofJson (.object members) = .ok options := by
  obtain ⟨none, accepted⟩ | ⟨some, he⟩ := ofJson_cases members
  case inl => simp [none, accepted]
  case inr => simp [some, he]

end

end Proofread.Options
