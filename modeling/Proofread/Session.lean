import Proofread.Rule

namespace Proofread.Session

-- The host holds texts by node and files, sets up rules, and calls their handlers, which report
-- diagnostics back to it. It may take only so many reports per call.
structure State where
  texts : Table String String
  store : Files.Store
  rules : Table String Rule
  limit : Option Nat

inductive Handler
  | document
  | segment
  deriving DecidableEq

namespace Handler

def name : Handler → String
  | document => "Document"
  | segment => "Str"

def all : List Handler :=
  [document, segment]

def pass : Handler → Rule → String → Pass
  | document, rule, text => rule.documentPass text
  | segment, rule, text => rule.segmentPass text

end Handler

inductive Step
  | text (node text : String)
  | file (path : Files.Path) (content : Files.Content)
  | delete (path : Files.Path)
  | limit (count : Option Nat)
  -- Sets up a rule from whatever is given as options.
  | create (rule : String) (options : Json)
  -- Sets up a rule from the members of an object.
  | configure (rule : String) (options : Json.Members)
  | handle (handler : Handler) (rule node : String)

structure Report where
  node : String
  message : String
  start : Int
  stop : Int
  deriving DecidableEq

def Report.ofDiagnostic (node : String) (d : Diagnostic) : Report :=
  ⟨node, d.message, d.start, d.stop⟩

inductive HandlerError
  | unknownRule (name : String)
  | unknownNode (name : String)
  | reportLimit
  deriving DecidableEq

def HandlerError.message : HandlerError → String
  | unknownRule name | unknownNode name => name
  | reportLimit => "report limit reached"

inductive Reply
  | done
  | handlers
  | ready (rule : Rule)
  | notReady (error : Rule.Error)
  | noFile (error : Files.Error)
  -- Reports that were taken count even if the call failed.
  | reports (reports : List Report) (error : Option HandlerError)

structure Answer where
  reply : Reply
  log : List LogEntry

def emit (limit : Option Nat) (reports : List Report) : Reply :=
  match limit with
  | none => .reports reports none
  | some count =>
    .reports (reports.take count) (if count < reports.length then some .reportLimit else none)

namespace State

def initial (store : Files.Store) : State :=
  ⟨[], store, [], none⟩

def handle (state : State) (handler : Handler) (rule node : String) : Answer :=
  match state.rules.get? rule with
  | none => ⟨.reports [] (some (.unknownRule rule)), []⟩
  | some found =>
    match state.texts.get? node with
    | none => ⟨.reports [] (some (.unknownNode node)), []⟩
    | some text =>
      let pass := handler.pass found text
      ⟨emit state.limit (pass.diagnostics.map (.ofDiagnostic node)), pass.log⟩

-- A rule that cannot be set up leaves an earlier one of its name in force.
def setRule (state : State) (name : String) (reply : Rule → Reply) :
    Except Rule.Error Rule.Ready → Answer × State
  | .ok ready => (⟨reply ready.rule, ready.log⟩, { state with rules := state.rules.set name ready.rule })
  | .error error => (⟨.notReady error, []⟩, state)

def step (state : State) : Step → Answer × State
  | .text node text => (⟨.done, []⟩, { state with texts := state.texts.set node text })
  | .file path content => (⟨.done, []⟩, { state with store := state.store.write path content })
  | .delete path =>
    match state.store.delete path with
    | .ok store => (⟨.done, []⟩, { state with store })
    | .error error => (⟨.noFile error, []⟩, state)
  | .limit count => (⟨.done, []⟩, { state with limit := count })
  | .create name options => state.setRule name (fun _ => .handlers) (Rule.ofJson state.store options)
  | .configure name options =>
    state.setRule name .ready (Rule.ofMembers state.store (.ofObject options))
  | .handle handler rule node => (state.handle handler rule node, state)

end State

def run : State → List Step → List Answer
  | _, [] => []
  | state, step :: steps =>
    let (answer, state) := state.step step
    answer :: run state steps

end Proofread.Session
