import Proofread.Proofs.Session.History

namespace Proofread.Session

namespace Handler

def found (text : String) (rule : Rule) : Handler → List Diagnostic
  | document => Document.check text
  | segment => (Segment.pass rule.allows rule.dictionary rule.settings text).diagnostics

-- An exempt text is passed over in silence.
def logged (text : String) (rule : Rule) : Handler → List LogEntry
  | document => [.documentPass text.length (found text rule document).length]
  | segment =>
    if rule.allows.exempts text then []
    else [.segmentPass text.length (found text rule segment).length]

theorem pass_eq (handler : Handler) (rule : Rule) (text : String) :
    handler.pass rule text = ⟨handler.found text rule, handler.logged text rule⟩ := by
  cases handler
  case document => rfl
  case segment =>
    simp only [pass, Rule.segmentPass, found, logged, Segment.pass]
    split <;> rfl

end Handler

theorem emit_eq (limit : Option Nat) (reports : List Report) :
    emit limit reports
      = .reports (reports.take (limit.elim reports.length (min · reports.length)))
          (if limit.any (· < reports.length) then some .reportLimit else none) := by
  cases limit
  case none       => simp [emit]
  case some count => simp [emit, ← List.take_eq_take_min]

variable {store : Files.Store} {before after : List Step} {handler : Handler}
variable {name node text : String} {rule : Rule}

theorem after_initial_rules :
    ((State.initial store).after before).rules.get? name = lastRule store name before := by
  rw [State.after_rules]
  exact Option.or_none

theorem after_initial_texts :
    ((State.initial store).after before).texts.get? node = lastText node before := by
  rw [State.after_texts]
  exact Option.or_none

theorem after_initial_limit : ((State.initial store).after before).limit = lastLimit before := by
  rw [State.after_limit, lastLimit]
  cases (before.filterMap (·.limit?)).getLast? <;> rfl

-- Whatever else has happened: files that were written or deleted since, other rules, failed setups of
-- this one, and calls before have no say in the answer.
theorem handler_answer (hr : lastRule store name before = some rule)
    (ht : lastText node before = some text) :
    let found := handler.found text rule
    let limit := lastLimit before
    (run (.initial store) (before ++ .handle handler name node :: after))[before.length]? = some {
      reply := .reports
        ((found.take (limit.elim found.length (min · found.length))).map fun d =>
          ⟨node, d.message, d.start, d.stop⟩)
        (if limit.any (· < found.length) then some .reportLimit else none)
      log := handler.logged text rule } := by
  intro found limit
  have answer : (((State.initial store).after before).handle handler name node)
      = ⟨emit limit (found.map (.ofDiagnostic node)), handler.logged text rule⟩ := by
    simp only [State.handle, after_initial_rules, hr, after_initial_texts, ht, after_initial_limit,
      Handler.pass_eq, found, limit]
  rw [getElem?_run, State.step, answer, emit_eq, List.length_map, ← List.map_take]
  rfl

-- The second formula is one report too many, and a failed setup has changed nothing.
theorem handler_answer_beyond_limit :
    let text := "$a$\\(b\\)$c$\\(d\\)"
    let before : List Step :=
      [.text "n" text, .configure "r" [], .create "r" (.integer 7), .limit (some 1)]
    let rule : Rule := ⟨[], Dictionary.builtin, ⟨2, 2, false⟩⟩
    lastRule .empty "r" before = some rule ∧ lastText "n" before = some text ∧
      (run (.initial .empty) (before ++ [.handle .document "r" "n"]))[4]? = some {
        reply := .reports
          [⟨"n", "\\(...\\) と $...$ が混在しています。(2回 / 2回)", 0, 3⟩] (some .reportLimit)
        log := [.documentPass 16 2] } := by
  intro text before rule
  have hr : lastRule .empty "r" before = some rule := rfl
  have ht : lastText "n" before = some text := rfl
  let mixed (start stop : Int) : Diagnostic :=
    ⟨"mixed_math_delimiter", "\\(...\\) と $...$ が混在しています。(2回 / 2回)", start, stop⟩
  have found : Handler.document.found text rule = [mixed 0 3, mixed 8 11] := by decide +kernel
  have length : text.length = 16 := by decide +kernel
  exact ⟨hr, ht, (handler_answer hr ht).trans (by simp only [Handler.logged, found, length]; rfl)⟩

end Proofread.Session
