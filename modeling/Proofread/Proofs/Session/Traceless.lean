import Proofread.Proofs.Session.History

namespace Proofread.Session

inductive Traceless : Step → Reply → Prop
  | handle {handler rule node reply} : Traceless (.handle handler rule node) reply
  | create {name options error}      : Traceless (.create name options) (.notReady error)
  | configure {name options error}   : Traceless (.configure name options) (.notReady error)

namespace State

variable (state : State) {name : String} {error : Rule.Error}

theorem setRule_of_notReady {reply : Rule → Reply} {made : Except Rule.Error Rule.Ready}
    (hr : ∀ rule, reply rule ≠ .notReady error)
    (h : (state.setRule name reply made).1.reply = .notReady error) :
    (state.setRule name reply made).2 = state := by
  cases made
  case ok ready => exact absurd h (hr ready.rule)
  case error    => rfl

theorem step_of_traceless {step : Step} (h : Traceless step (state.step step).1.reply) :
    (state.step step).2 = state := by
  generalize hr : (state.step step).1.reply = reply at h
  cases h
  case handle    => rfl
  case create    => exact state.setRule_of_notReady (fun _ => nofun) hr
  case configure => exact state.setRule_of_notReady (fun _ => nofun) hr

end State

section

variable {state : State} {steps : List Step} {i : Nat} {step : Step}

theorem run_cons :
    run state (step :: steps) = (state.step step).1 :: run (state.step step).2 steps :=
  rfl

theorem split_at (h : steps[i]? = some step) :
    steps = steps.take i ++ step :: steps.drop (i + 1) ∧ (steps.take i).length = i := by
  have ⟨hi, he⟩ := List.getElem?_eq_some_iff.mp h
  refine ⟨?_, List.length_take_of_le (Nat.le_of_lt hi)⟩
  rw [← he, List.getElem_cons_drop, List.take_append_drop]

theorem getElem?_run_eq (h : steps[i]? = some step) :
    (run state steps)[i]? = some ((state.after (steps.take i)).step step).1 := by
  have ⟨split, length⟩ := split_at h
  have answer := getElem?_run state (steps.take i) (steps.drop (i + 1)) step
  rwa [← split, length] at answer

theorem after_take_succ (h : steps[i]? = some step) :
    state.after (steps.take (i + 1)) = ((state.after (steps.take i)).step step).2 := by
  rw [List.take_add_one, h, State.after, List.foldl_append]
  rfl

end

def without {α : Type} : (places : Nat → Bool) → List α → List α
  | _, [] => []
  | places, x :: xs =>
    if places 0 then without (places <| · + 1) xs else x :: without (places <| · + 1) xs

-- The steps that are left start from the state they would start from anyway, as a call reads the state
-- only and a setup that fails puts nothing into it.
theorem run_without {state : State} {steps : List Step} {places : Nat → Bool}
    (h : ∀ i step answer, places i → steps[i]? = some step →
      (run state steps)[i]? = some answer → Traceless step answer.reply) :
    run state (without places steps) = without places (run state steps) ∧
      ∀ i, places i → state.after (steps.take (i + 1)) = state.after (steps.take i) := by
  constructor
  case right =>
    intro i hi
    cases hs : steps[i]?
    case none =>
      have past := List.getElem?_eq_none_iff.mp hs
      rw [List.take_of_length_le past, List.take_of_length_le (Nat.le_succ_of_le past)]
    case some step =>
      rw [after_take_succ hs]
      exact State.step_of_traceless _ (h i step _ hi hs (getElem?_run_eq hs))
  case left =>
    induction steps generalizing state places
    case nil => rfl
    case cons step steps ih =>
      have rest := @ih (state.step step).2 (places <| · + 1) fun i step answer =>
        h (i + 1) step answer
      rw [without, run_cons, without]
      split
      case isFalse => rw [run_cons, rest]
      case isTrue hp =>
        -- The others start from the state that the step has left as it was.
        have same := State.step_of_traceless state (h 0 step _ hp rfl rfl)
        rw [same] at rest ⊢
        exact rest

-- A setup with a value that is no object, one with a dictionary that is no text, and a call with a
-- report too many.
theorem run_without_failures :
    let steps : List Step :=
      [.text "n" "ごさ", .configure "r" [], .create "r" (.integer 7), .file ⟨.none, ["d"]⟩ [0xFF],
        .configure "r" [("dictionary_path", .string "d")], .limit (some 0),
        .handle .segment "r" "n", .limit none, .handle .segment "r" "n"]
    let places i := [2, 4, 6].contains i
    (∀ i step answer, places i → steps[i]? = some step →
      (run (.initial .empty) steps)[i]? = some answer → Traceless step answer.reply) ∧
      (run (.initial .empty) (without places steps))[5]?
        = some ⟨.reports [⟨"n", "\"ごさ\" -?> \"誤差\"", 0, 2⟩] none, [.segmentPass 2 1]⟩ := by
  intro steps places
  have unconvertible : (run (.initial .empty) steps)[2]?
      = some ⟨.notReady (.unconvertible (.notIterable "int")), []⟩ := rfl
  have undecodable : (run (.initial .empty) steps)[4]?
      = some ⟨.notReady (.noDictionary (.undecodable ⟨0xFF, 0, 0, .start⟩)), []⟩ := rfl
  have h (i step answer) (hi : places i) (hs : steps[i]? = some step)
      (ha : (run (.initial .empty) steps)[i]? = some answer) : Traceless step answer.reply := by
    simp only [places, List.contains_eq_mem, List.mem_cons, List.not_mem_nil, or_false,
      decide_eq_true_eq] at hi
    obtain rfl | rfl | rfl := hi <;> cases hs
    · cases unconvertible.symm.trans ha
      exact .create
    · cases undecodable.symm.trans ha
      exact .configure
    · exact .handle
  refine ⟨h, ?_⟩
  have same : (without places (run (.initial .empty) steps))[5]?
      = some (((State.initial .empty).after (steps.take 8)).handle .segment "r" "n") := rfl
  have rule : ((State.initial .empty).after (steps.take 8)).rules.get? "r"
      = some ⟨[], Dictionary.builtin, ⟨2, 2, false⟩⟩ := rfl
  have text : ((State.initial .empty).after (steps.take 8)).texts.get? "n" = some "ごさ" := rfl
  have limit : ((State.initial .empty).after (steps.take 8)).limit = none := rfl
  have pass : Segment.pass [] Dictionary.builtin ⟨2, 2, false⟩ "ごさ"
      = ⟨[⟨"dictionary", "\"ごさ\" -?> \"誤差\"", 0, 2⟩], [.segmentPass 2 1]⟩ := by
    decide +kernel
  rw [(run_without h).1, same, State.handle]
  simp only [rule, text, limit, Handler.pass, Rule.segmentPass, pass]
  rfl

end Proofread.Session
