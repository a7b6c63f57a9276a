import Mathlib.Data.List.Nodup
import Mathlib.Data.List.Perm.Basic
import Proofread.Proofs.Options.Issues

namespace Proofread.Options

open Validation

theorem issues_of_reader {reader : String × (Json → List Issue)} (hr : reader ∈ readers)
    (value : Json) :
    issues [(reader.1, value)] = (reader.2 value).map (·.under (.member reader.1)) := by
  have known : reader.1 ∈ names := names_eq ▸ List.mem_map_of_mem hr
  have single (name : String) :
      (Members.ofObject [(reader.1, value)]).get? (.text name)
        = if name = reader.1 then some value else none := by
    rw [get?_ofObject]
    by_cases hn : name = reader.1 <;> simp [Table.get?, hn]
  simp only [issues_eq_append, unknownIssues, knownIssues, single]
  simp only [readers, List.mem_cons, List.not_mem_nil, or_false] at hr
  obtain rfl | rfl | rfl | rfl | rfl := hr <;>
    simp [readers, names, allowsName, dictionaryPathName, significantFiguresName, integerDigitsName,
      punctuationName]

theorem knownIssues_ofObject (members : Json.Members) :
    knownIssues (.ofObject members)
      = names.flatMap fun name =>
          (members.get? name).elim [] fun value => issues [(name, value)] := by
  rw [names_eq, List.flatMap_map]
  refine List.flatMap_congr fun reader hr => ?_
  rw [get?_ofObject]
  cases members.get? reader.1
  case none       => rfl
  case some value => exact (issues_of_reader hr value).symm

def isText : Json → Bool
  | .string _ => true
  | _         => false

theorem issues_of_items (items : List Json) :
    issues [(allowsName, .array items)]
      = (items.zipIdx.filter (!isText ·.1)).map fun item =>
          ⟨.notText, [.member allowsName, .item item.2]⟩ := by
  rw [issues_of_reader List.mem_cons_self]
  simp only [readAllows, checkItems_issues, itemIssues]
  generalize items.zipIdx = numbered
  induction numbered
  case nil => rfl
  case cons item numbered ih =>
    obtain ⟨value, index⟩ := item
    rw [List.flatMap_cons, List.map_append, ih]
    cases value <;> rfl

theorem issues_of_not_items {value : Json} (h : ∀ items, value ≠ .array items) :
    issues [(allowsName, value)] = [⟨.notList, [.member allowsName]⟩] := by
  rw [issues_of_reader List.mem_cons_self]
  cases value
  case array items => exact absurd rfl (h items)
  all_goals rfl

theorem issues_of_known {name : String} (hn : name ∈ names) (ha : name ≠ allowsName)
    (value : Json) :
    issues [(name, value)] = [] ∨ ∃ cause, issues [(name, value)] = [⟨cause, [.member name]⟩] := by
  obtain ⟨reader, hr, rfl⟩ := List.mem_map.mp (names_eq ▸ hn)
  rw [issues_of_reader hr]
  obtain none | ⟨cause, one⟩ := readers_issues hr ha value
  case inl => exact .inl (by rw [none]; rfl)
  case inr => exact .inr ⟨cause, by rw [one]; rfl⟩

def concerns (name : String) (issue : Issue) : Bool :=
  issue.place.head? == some (.member name)

theorem eq_of_concerns {name name' : String} {issue issue' : Issue} (h : concerns name issue)
    (h' : concerns name' issue') (he : issue.place = issue'.place) : name = name' := by
  simp only [concerns, beq_iff_eq, he] at h h'
  simpa using h.symm.trans h'

theorem concerns_of_known {name : String} (hn : name ∈ names) {value : Json} {issue : Issue}
    (h : issue ∈ issues [(name, value)]) : concerns name issue := by
  obtain ⟨reader, hr, rfl⟩ := List.mem_map.mp (names_eq ▸ hn)
  rw [issues_of_reader hr] at h
  obtain ⟨_, _, rfl⟩ := List.mem_map.mp h
  simp [concerns, Issue.under]

theorem places_nodup_of_known {name : String} (hn : name ∈ names) (value : Json) :
    ((issues [(name, value)]).map (·.place)).Nodup := by
  by_cases ha : name = allowsName
  case neg =>
    obtain none | ⟨cause, one⟩ := issues_of_known hn ha value
    case inl => simp [none]
    case inr => simp [one]
  case pos =>
    subst ha
    by_cases items : ∃ items, value = .array items
    case neg => simp [issues_of_not_items (not_exists.mp items)]
    case pos =>
      obtain ⟨items, rfl⟩ := items
      have indices : (items.zipIdx.map (·.2)).Nodup := by
        simpa using List.nodup_range'
      rw [issues_of_items, List.map_map]
      refine List.Nodup.map_on ?_ (List.Nodup.filter _ indices.of_map)
      intro item hi item' hi' he
      have index : item.2 = item'.2 := by simpa [Int.natCast_inj] using he
      exact List.inj_on_of_nodup_map indices (List.mem_filter.mp hi).1 (List.mem_filter.mp hi').1 index

section

variable {members : Json.Members}

theorem concerns_of_get? {name : String} (hn : name ∈ names) {issue : Issue}
    (h : issue ∈ (members.get? name).elim [] fun value => issues [(name, value)]) :
    concerns name issue := by
  cases hv : members.get? name
  case none       => simp [hv] at h
  case some value => exact concerns_of_known hn (by simpa [hv] using h)

theorem concerns_of_knownIssues {issue : Issue} (h : issue ∈ knownIssues (.ofObject members)) :
    ∃ name ∈ names, concerns name issue := by
  rw [knownIssues_ofObject] at h
  have ⟨name, hn, h⟩ := List.mem_flatMap.mp h
  exact ⟨name, hn, concerns_of_get? hn h⟩

theorem concerns_of_unknownIssues {issue : Issue} (h : issue ∈ unknownIssues members) :
    ∃ name ∉ names, concerns name issue := by
  obtain ⟨member, hm, rfl⟩ := List.mem_map.mp h
  exact ⟨member.1, by simpa using (List.mem_filter.mp hm).2, by simp [concerns]⟩

theorem knownIssues_places_nodup : ((knownIssues (.ofObject members)).map (·.place)).Nodup := by
  rw [knownIssues_ofObject, List.map_flatMap, List.nodup_flatMap]
  constructor
  · intro name hn
    cases members.get? name
    case none       => exact List.nodup_nil
    case some value => exact places_nodup_of_known hn value
  · refine names_nodup.imp_of_mem fun hn hn' ne => ?_
    intro place hp hp'
    obtain ⟨issue, hi, rfl⟩ := List.mem_map.mp hp
    obtain ⟨issue', hi', he⟩ := List.mem_map.mp hp'
    exact ne (eq_of_concerns (concerns_of_get? hn hi) (concerns_of_get? hn' hi') he.symm)

theorem unknownIssues_places_nodup (distinct : (members.map (·.1)).Nodup) :
    ((unknownIssues members).map (·.place)).Nodup := by
  have named : (unknownIssues members).map (·.place)
      = ((members.filter (·.1 ∉ names)).map (·.1)).map fun name => [Step.member name] := by
    simp [unknownIssues]
  rw [named]
  have kept : ((members.filter (·.1 ∉ names)).map (·.1)).Nodup :=
    distinct.sublist (List.filter_sublist.map _)
  exact kept.map fun name name' he => by simpa using he

theorem places_nodup (distinct : (members.map (·.1)).Nodup) :
    ((issues members).map (·.place)).Nodup := by
  rw [issues_eq_append, List.map_append, List.nodup_append]
  refine ⟨knownIssues_places_nodup, unknownIssues_places_nodup distinct, ?_⟩
  -- A place tells the option that it is in, and an option is either known or not.
  intro place hp place' hp' he
  obtain ⟨issue, hi, rfl⟩ := List.mem_map.mp hp
  obtain ⟨issue', hi', rfl⟩ := List.mem_map.mp hp'
  have ⟨name, hn, hc⟩ := concerns_of_knownIssues hi
  have ⟨name', hn', hc'⟩ := concerns_of_unknownIssues hi'
  exact hn' (eq_of_concerns hc hc' he ▸ hn)

end

theorem issues_eq_nil_iff_forall {members : Json.Members} (distinct : (members.map (·.1)).Nodup) :
    issues members = [] ↔ ∀ member ∈ members, member.1 ∈ names ∧ issues [member] = [] := by
  rw [issues_eq_append, knownIssues_ofObject, List.append_eq_nil_iff, List.flatMap_eq_nil_iff,
    unknownIssues, List.map_eq_nil_iff, List.filter_eq_nil_iff]
  simp only [decide_not, Bool.not_eq_true', decide_eq_false_iff_not, not_not]
  constructor
  case mp =>
    rintro ⟨known, unknown⟩ member hm
    have hn := unknown member hm
    have hv : members.get? member.1 = some member.2 := (Table.get?_eq_some_iff distinct).mpr hm
    have alone := known member.1 hn
    rw [hv] at alone
    exact ⟨hn, alone⟩
  case mpr =>
    refine fun each => ⟨fun name _ => ?_, fun member hm => (each member hm).1⟩
    cases hv : members.get? name
    case none       => rfl
    case some value => exact (each (name, value) ((Table.get?_eq_some_iff distinct).mp hv)).2

theorem knownIssues_congr {members other : Json.Members}
    (h : ∀ name ∈ names, other.get? name = members.get? name) :
    knownIssues (.ofObject other) = knownIssues (.ofObject members) := by
  rw [knownIssues_ofObject, knownIssues_ofObject]
  exact List.flatMap_congr fun name hn => by rw [h name hn]

section

variable {members other : Json.Members} (distinct : (members.map (·.1)).Nodup)
include distinct

theorem issues_perm (h : other.Perm members) :
    issues other = knownIssues (.ofObject members) ++ unknownIssues other ∧
      (unknownIssues other).Perm (unknownIssues members) := by
  constructor
  · rw [issues_eq_append, knownIssues_congr fun name _ => Table.get?_perm h distinct name]
  · exact (h.filter _).map _

theorem ofJson_perm (h : other.Perm members) {options : Options} :
    ofJson (.object other) = .ok options ↔ ofJson (.object members) = .ok options := by
  have same (name : String) : (Members.ofObject other).get? (.text name)
      = (Members.ofObject members).get? (.text name) := by
    rw [get?_ofObject, get?_ofObject, Table.get?_perm h distinct]
  have none : unknownIssues other = [] ↔ unknownIssues members = [] := by
    have perm := (issues_perm distinct h).2
    exact ⟨fun he => (he ▸ perm).nil_eq.symm, fun he => (he ▸ perm).eq_nil⟩
  simp only [ofJson, ofMembers_eq_ok_iff, member, same, filterMap_unknown?_ofObject, none]

end

theorem filter_get?_of_ne {members : Json.Members} {name other : String} (hn : name ∈ names)
    (ne : name ≠ other) :
    ((members.get? name).elim [] fun value => issues [(name, value)]).filter (concerns other)
      = [] := by
  refine List.filter_eq_nil_iff.mpr fun issue hi hc => ?_
  exact ne (eq_of_concerns (concerns_of_get? hn hi) hc rfl)

theorem filter_unknownIssues (members : Json.Members) (other : String) :
    (unknownIssues members).filter (concerns other)
      = unknownIssues (members.filter (·.1 = other)) := by
  have named (member : String × Json) :
      concerns other ⟨.unknownMember, [.member member.1]⟩ = decide (member.1 = other) := by
    rw [Bool.eq_iff_iff]
    simp [concerns]
  simp only [unknownIssues, List.filter_map, Function.comp_def, named]
  rw [List.filter_filter, List.filter_filter]
  simp only [Bool.and_comm]

theorem filter_issues_set (members : Json.Members) {name other : String} (h : other ≠ name)
    (value : Json) :
    (issues (members.set name value)).filter (concerns other)
      = (issues members).filter (concerns other) := by
  have known : (knownIssues (.ofObject (members.set name value))).filter (concerns other)
      = (knownIssues (.ofObject members)).filter (concerns other) := by
    rw [knownIssues_ofObject, knownIssues_ofObject, List.filter_flatMap, List.filter_flatMap]
    refine List.flatMap_congr fun name' hn => ?_
    by_cases hk : name' = other
    case pos => rw [hk, Table.get?_set, if_neg h]
    case neg => rw [filter_get?_of_ne hn hk, filter_get?_of_ne hn hk]
  rw [issues_eq_append, issues_eq_append, List.filter_append, List.filter_append, known,
    filter_unknownIssues, filter_unknownIssues, Table.filter_set_of_ne members h value]

theorem ofJson_each_alone {members : Json.Members} (distinct : (members.map (·.1)).Nodup) :
    let known := names.flatMap fun name =>
      (members.get? name).elim [] fun value => issues [(name, value)]
    let unknown (members : Json.Members) : List Issue :=
      (members.filter (·.1 ∉ names)).map fun member => ⟨.unknownMember, [.member member.1]⟩
    ((∃ options, ofJson (.object members) = .ok options) ↔
      ∀ member ∈ members, member.1 ∈ names ∧ ∃ options, ofJson (.object [member]) = .ok options) ∧
    (∀ report, ofJson (.object members) = .error report →
      report = ⟨.options, known ++ unknown members⟩ ∧ (report.issues.map (·.place)).Nodup) ∧
    (∀ value, (∀ items, value ≠ .array items) →
      issues [(allowsName, value)] = [⟨.notList, [.member allowsName]⟩]) ∧
    (∀ items, issues [(allowsName, .array items)]
      = (items.zipIdx.filter (!isText ·.1)).map fun item =>
          ⟨.notText, [.member allowsName, .item item.2]⟩) ∧
    (∀ name ∈ names, name ≠ allowsName → ∀ value, issues [(name, value)] = [] ∨
      ∃ cause, issues [(name, value)] = [⟨cause, [.member name]⟩]) ∧
    (∀ other, other.Perm members →
      (∀ options, ofJson (.object other) = .ok options ↔ ofJson (.object members) = .ok options) ∧
      issues other = known ++ unknown other ∧ (unknown other).Perm (unknown members)) ∧
    (∀ name value other, other ≠ name →
      (issues (members.set name value)).filter (concerns other)
        = (issues members).filter (concerns other)) := by
  intro known unknown
  -- What is said of a known option is read off the object that holds this option alone.
  have each : knownIssues (.ofObject members) = known := knownIssues_ofObject members
  have all : issues members = known ++ unknown members := each ▸ issues_eq_append members
  refine ⟨?accepted, fun report h => ?told, fun value => issues_of_not_items, issues_of_items,
    fun name hn ha => issues_of_known hn ha, fun other h => ?permuted,
    fun name value other h => filter_issues_set members h value⟩
  case accepted =>
    simp only [← issues_eq_nil_iff]
    exact issues_eq_nil_iff_forall distinct
  case told =>
    obtain ⟨_, options, ho⟩ | ⟨_, he⟩ := ofJson_cases members
    case inl => cases ho.symm.trans h
    case inr =>
      cases he.symm.trans h
      exact ⟨all ▸ rfl, places_nodup distinct⟩
  case permuted =>
    have ⟨same, perm⟩ := issues_perm distinct h
    exact ⟨fun _ => ofJson_perm distinct h, each ▸ same, perm⟩

theorem ofJson_each_alone_disordered :
    let members : Json.Members :=
      [("x", .null), ("max_integer_digits", .integer (-1)), ("y", .null),
        ("allows", .array [.string "a", .integer 3, .null])]
    let report : Invalid :=
      ⟨.options, [⟨.notText, [.member "allows", .item 1]⟩, ⟨.notText, [.member "allows", .item 2]⟩,
        ⟨.negative, [.member "max_integer_digits"]⟩, ⟨.unknownMember, [.member "x"]⟩,
        ⟨.unknownMember, [.member "y"]⟩]⟩
    (members.map (·.1)).Nodup ∧ ofJson (.object members) = .error report ∧
      (report.issues.map (·.place)).Nodup ∧
      issues members.reverse = report.issues.take 3 ++ [⟨.unknownMember, [.member "y"]⟩,
        ⟨.unknownMember, [.member "x"]⟩] := by
  intro members report
  have distinct : (members.map (·.1)).Nodup := by decide
  have ⟨_, told, _, _, _, permuted, _⟩ := ofJson_each_alone distinct
  have refused : ofJson (.object members) = .error report := by rfl
  have ⟨_, reversed, _⟩ := permuted members.reverse (List.reverse_perm members)
  refine ⟨distinct, refused, (told report refused).2, reversed.trans ?_⟩
  decide +kernel

end Proofread.Options
