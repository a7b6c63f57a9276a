import Proofread.Session

namespace Proofread.Session

open Files

namespace State

def after (state : State) (steps : List Step) : State :=
  steps.foldl (fun state step => (state.step step).2) state

theorem after_cons (state : State) (step : Step) (steps : List Step) :
    state.after (step :: steps) = (state.step step).2.after steps :=
  rfl

end State

theorem run_append (state : State) (before after : List Step) :
    run state (before ++ after) = run state before ++ run (state.after before) after := by
  induction before generalizing state
  case nil               => rfl
  case cons step rest ih => simp [run, ih, State.after_cons]

theorem length_run (state : State) (steps : List Step) : (run state steps).length = steps.length := by
  induction steps generalizing state
  case nil               => rfl
  case cons step rest ih => simp [run, ih]

theorem getElem?_run (state : State) (before after : List Step) (step : Step) :
    (run state (before ++ step :: after))[before.length]?
      = some ((state.after before).step step).1 := by
  simp [run_append, run, length_run]

namespace Step

def text? (node : String) : Step → Option String
  | .text n content => if n = node then some content else none
  | _ => none

def limit? : Step → Option (Option Nat)
  | .limit count => some count
  | _ => none

def files (store : Store) : Step → Store
  | .file path content => store.write path content
  | .delete path => (store.delete path).toOption.getD store
  | _ => store

def rule? (store : Store) (name : String) : Step → Option Rule
  | .create r options =>
    if r = name then (Rule.ofJson store options).toOption.map (·.rule) else none
  | .configure r options =>
    if r = name then (Rule.ofMembers store (.ofObject options)).toOption.map (·.rule) else none
  | _ => none

end Step

namespace State

variable (state : State) (step : Step)

section

variable (name r : String) (reply : Rule → Reply) (made : Except Rule.Error Rule.Ready)

theorem setRule_texts : (state.setRule r reply made).2.texts = state.texts := by
  cases made <;> rfl

theorem setRule_store : (state.setRule r reply made).2.store = state.store := by
  cases made <;> rfl

theorem setRule_limit : (state.setRule r reply made).2.limit = state.limit := by
  cases made <;> rfl

theorem setRule_rules :
    (state.setRule r reply made).2.rules.get? name
      = (if r = name then made.toOption.map (·.rule) else none).or (state.rules.get? name) := by
  cases made <;> simp [setRule, Except.toOption]
  case ok ready =>
    rw [Table.get?_set]
    by_cases h : r = name
    case pos => simp [h]
    case neg => simp [h, Ne.symm h]

end

theorem step_delete (path : Path) :
    (state.step (.delete path)).2
      = { state with store := (Step.delete path).files state.store } := by
  simp only [State.step, Step.files]
  cases state.store.delete path <;> rfl

theorem step_texts (node : String) :
    (state.step step).2.texts.get? node = (step.text? node).or (state.texts.get? node) := by
  cases step
  case text n content =>
    simp only [State.step, Step.text?, Table.get?_set]
    by_cases h : n = node
    case pos => simp [h]
    case neg => simp [h, Ne.symm h]
  case delete path              => simp [step_delete, Step.text?]
  case create r _ | configure r _ => simp [State.step, setRule_texts, Step.text?]
  all_goals rfl

theorem step_limit : (state.step step).2.limit = step.limit?.getD state.limit := by
  cases step
  case delete path              => simp [step_delete, Step.limit?]
  case create r _ | configure r _ => simp [State.step, setRule_limit, Step.limit?]
  all_goals rfl

theorem step_store : (state.step step).2.store = step.files state.store := by
  cases step
  case delete path              => rw [step_delete]
  case create r _ | configure r _ => simp only [State.step, setRule_store, Step.files]
  all_goals rfl

theorem step_rules (name : String) :
    (state.step step).2.rules.get? name
      = (step.rule? state.store name).or (state.rules.get? name) := by
  cases step
  case delete path              => simp [step_delete, Step.rule?]
  case create r _ | configure r _ => simp only [State.step, setRule_rules, Step.rule?]
  all_goals rfl

end State

def lastText (node : String) (steps : List Step) : Option String :=
  (steps.filterMap (·.text? node)).getLast?

def lastLimit (steps : List Step) : Option Nat :=
  (steps.filterMap (·.limit?)).getLast?.join

-- The rules that the steps set up under a name. Each step sees the files as the steps before it have
-- left them.
def rulesSet (name : String) : Store → List Step → List Rule
  | _, [] => []
  | store, step :: steps => (step.rule? store name).toList ++ rulesSet name (step.files store) steps

def lastRule (store : Store) (name : String) (steps : List Step) : Option Rule :=
  (rulesSet name store steps).getLast?

namespace State

variable (state : State) (steps : List Step)

theorem after_texts (node : String) :
    (state.after steps).texts.get? node = (lastText node steps).or (state.texts.get? node) := by
  induction steps generalizing state
  case nil => rfl
  case cons step rest ih =>
    rw [after_cons, ih, step_texts, lastText, lastText, List.filterMap_cons]
    cases step.text? node <;> simp [List.getLast?_cons]

theorem after_limit :
    (state.after steps).limit = (steps.filterMap (·.limit?)).getLast?.getD state.limit := by
  induction steps generalizing state
  case nil => rfl
  case cons step rest ih =>
    rw [after_cons, ih, step_limit, List.filterMap_cons]
    cases step.limit? <;> simp [List.getLast?_cons]

theorem after_rules (name : String) :
    (state.after steps).rules.get? name
      = (lastRule state.store name steps).or (state.rules.get? name) := by
  induction steps generalizing state
  case nil => rfl
  case cons step rest ih =>
    rw [after_cons, ih, step_rules, step_store, lastRule, lastRule, rulesSet]
    cases step.rule? state.store name <;> simp [List.getLast?_cons]

end State
end Proofread.Session
