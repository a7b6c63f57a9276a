import Mathlib.Data.List.Forall2
import Proofread.Proofs.Options.Normal
import Proofread.Session

namespace Proofread

namespace Options.Members

-- What may stand for the pair of a name and a value. Of an object the two keys do.
inductive IsPair : Json → String × Json → Prop
  | list (name : String) (value : Json) : IsPair (.array [.string name, value]) (name, value)
  | text (name value : Char) :
    IsPair (.string (.ofList [name, value])) (name.toString, .string value.toString)
  | object (name value : String) (first second : Json) :
    IsPair (.object [(name, first), (value, second)]) (name, .string value)

variable {item : Json} {items : List Json} {pair : String × Json} {pairs : List (String × Json)}

theorem pair_of_isPair (h : IsPair item pair) (index : Nat) :
    Members.pair index item = .ok (.text pair.1, pair.2) := by
  cases h
  case list   => rfl
  case text   => simp [Members.pair, values?, key, Functor.map, Except.map]
  case object => rfl

theorem pairs_of_isPair (h : items.Forall₂ IsPair pairs) (index : Nat) :
    Members.pairs index items = .ok (ofObject pairs) := by
  induction h generalizing index
  case nil => rfl
  case cons head _ ih =>
    rw [Members.pairs, pair_of_isPair head, ih]
    rfl

theorem ofObject_set (members : Json.Members) (name : String) (value : Json) :
    ofObject (members.set name value) = (ofObject members).set (.text name) value := by
  induction members
  case nil => rfl
  case cons member members ih =>
    obtain ⟨other, _⟩ := member
    by_cases h : other = name
    case pos => simp [Table.set, ofObject, h]
    case neg => simpa [Table.set, ofObject, h] using ih

-- Text is the same key as no other one.
theorem insert_text (members : Members) (name : String) (value : Json) :
    members.insert (.text name, value) = members.set (.text name) value := by
  cases found : (members.map (·.1)).find? (Key.text name).same
  case none => simp [insert, found]
  case some key =>
    have same := List.find?_some found
    simp only [Key.same, Key.toRat?, Option.isSome_none, Bool.false_and, Bool.or_false,
      beq_iff_eq] at same
    rw [insert, found, ← same]
    rfl

theorem ofObject_ofPairs (pairs : List (String × Json)) :
    ofObject (Table.ofPairs pairs) = (ofObject pairs).foldl insert [] := by
  rw [Table.ofPairs, ofObject, ofObject, List.foldl_map]
  refine (List.foldl_hom ofObject fun members pair => ?_).symm
  rw [insert_text, ofObject_set]

theorem ofJson_of_isPair (h : items.Forall₂ IsPair pairs) :
    Members.ofJson (.array items) = Members.ofJson (.object (Table.ofPairs pairs)) := by
  show List.foldl insert [] <$> Members.pairs 0 items = .ok (ofObject (Table.ofPairs pairs))
  rw [pairs_of_isPair h, ofObject_ofPairs]
  rfl

end Options.Members

namespace Rule

inductive Refuses (store : Files.Store) (members : Json.Members) : Error → Prop
  | invalid {report} (refused : Options.ofJson (.object members) = .error report) :
    Refuses store members (.invalid report)
  | noDictionary {options cause} (accepted : Options.ofJson (.object members) = .ok options)
    (failed : options.dictionary store = .error cause) : Refuses store members (.noDictionary cause)

inductive Makes (store : Files.Store) (members : Json.Members) : Ready → Prop
  | intro {options loaded} (accepted : Options.ofJson (.object members) = .ok options)
    (found : options.dictionary store = .ok loaded) :
    Makes store members {
      rule := ⟨options.allows, loaded.dictionary, options.settings⟩
      log  := loaded.log ++ [.ruleReady options.allows.length loaded.dictionary.length] }

theorem ofJson_cases (store : Files.Store) (members : Json.Members) :
    (∃ error, Refuses store members error ∧ ofJson store (.object members) = .error error) ∨
      ∃ ready, Makes store members ready ∧ ofJson store (.object members) = .ok ready := by
  cases accepted : Options.ofJson (.object members)
  case error report =>
    have refused : Options.ofMembers (.ofObject members) = .error report := accepted
    refine .inl ⟨.invalid report, .invalid accepted, ?_⟩
    show ofMembers store (.ofObject members) = _
    rw [ofMembers, refused]
    rfl
  case ok options =>
    rw [Options.ofJson_of_options accepted, ofOptions]
    cases found : options.dictionary store
    case error cause => exact .inl ⟨_, .noDictionary accepted found, rfl⟩
    case ok loaded   => exact .inr ⟨_, .intro accepted found, rfl⟩

end Rule

namespace Session

open Options.Members

namespace State

variable (state : State) (name : String)

theorem setRule_congr (reply other : Rule → Reply) (made : Except Rule.Error Rule.Ready) :
    (state.setRule name reply made).2 = (state.setRule name other made).2 := by
  cases made <;> rfl

theorem step_configure (members : Json.Members) :
    state.step (.configure name members)
      = state.setRule name .ready (Rule.ofJson state.store (.object members)) :=
  rfl

theorem step_create_pairs {items : List Json} {pairs : List (String × Json)}
    (h : items.Forall₂ IsPair pairs) :
    state.step (.create name (.array items))
      = state.step (.create name (.object (Table.ofPairs pairs))) := by
  have same : Rule.ofJson state.store (.array items)
      = Rule.ofJson state.store (.object (Table.ofPairs pairs)) := by
    rw [Rule.ofJson, ofJson_of_isPair h, Rule.ofJson]
  rw [step, step, same]

end State

theorem create_configure_alike (state : State) (name : String) (members : Json.Members) :
    let created := state.step (.create name (.object members))
    let configured := state.step (.configure name members)
    ((∃ error, Rule.Refuses state.store members error ∧
        created = (⟨.notReady error, []⟩, state) ∧
        configured = (⟨.notReady error, []⟩, state)) ∨
      ∃ ready, Rule.Makes state.store members ready ∧
        let next := { state with rules := state.rules.set name ready.rule }
        created = (⟨.handlers, ready.log⟩, next) ∧
        configured = (⟨.ready ready.rule, ready.log⟩, next)) ∧
    (∀ steps, run created.2 steps = run configured.2 steps) ∧
    ∀ items pairs, items.Forall₂ IsPair pairs →
      let object := Table.ofPairs pairs
      state.step (.create name (.array items)) = state.step (.create name (.object object)) ∧
        object.map (·.1) = (pairs.map (·.1)).eraseDups ∧
        ∀ key, object.get? key = pairs.reverse.lookup key := by
  intro created configured
  refine ⟨?once, ?later, fun items pairs h => ⟨state.step_create_pairs name h,
    Table.keys_ofPairs pairs, Table.get?_ofPairs pairs⟩⟩
  case once =>
    simp only [created, configured, State.step_configure]
    rw [State.step]
    obtain ⟨error, refused, he⟩ | ⟨ready, made, hr⟩ := Rule.ofJson_cases state.store members
    case inl =>
      rw [he]
      exact .inl ⟨error, refused, rfl, rfl⟩
    case inr =>
      rw [hr]
      exact .inr ⟨ready, made, rfl, rfl⟩
  case later =>
    -- What is answered has no say in how the session goes on.
    have same : created.2 = configured.2 := State.setRule_congr ..
    exact fun steps => congrArg (run · steps) same

-- Each pair has a form of its own, and the last one takes back the value of the first.
theorem create_configure_alike_repeated :
    let state := State.initial .empty
    let items : List Json :=
      [.string "xy", .object [("allows", .null), ("b", .null)], .array [.string "x", .integer 0]]
    let pairs : List (String × Json) :=
      [("x", .string "y"), ("allows", .string "b"), ("x", .integer 0)]
    let object : Json.Members := [("x", .integer 0), ("allows", .string "b")]
    let report : Invalid :=
      ⟨.options, [⟨.notList, [.member "allows"]⟩, ⟨.unknownMember, [.member "x"]⟩]⟩
    items.Forall₂ IsPair pairs ∧ Table.ofPairs pairs = object ∧
      state.step (.create "r" (.array items)) = (⟨.notReady (.invalid report), []⟩, state) ∧
      state.step (.configure "r" object) = (⟨.notReady (.invalid report), []⟩, state) := by
  intro state items pairs object report
  have forms : items.Forall₂ IsPair pairs :=
    .cons (.text 'x' 'y') <| .cons (.object "allows" "b" _ _) <| .cons (.list "x" _) .nil
  have ⟨once, _, sequence⟩ := create_configure_alike state "r" object
  have ⟨same, _⟩ := sequence items pairs forms
  have configured : state.step (.configure "r" object) = (⟨.notReady (.invalid report), []⟩, state) :=
    rfl
  obtain ⟨error, _, created, other⟩ | ⟨ready, _, _, other⟩ := once
  case inl =>
    cases configured.symm.trans other
    exact ⟨forms, rfl, same.trans created, configured⟩
  case inr => cases configured.symm.trans other

end Session

end Proofread
