import Rehearsal.Action.Execute

/-!
# Test cases

A test case declares variables and does actions. `TestCase.run` runs all of them at once; a `Runner`
runs actions as they come in and records them in the test case. Either way the result is set once:
when the variables cannot be declared, when an action fails, or at the end. A suite container runs
actions before or after a group of test cases.
-/

namespace Rehearsal

/-- What came out of a test case. -/
inductive TestResult
  | pending
  | success
  /-- The innermost action that failed, if the error came out of one, and its cause in words. -/
  | failed (action : Option String) (cause : String)
  deriving DecidableEq, Repr

/-- The result of an error. -/
def TestResult.ofError (e : Error) : TestResult := .failed e.failedAction? e.rootCause.message

def TestResult.isFailed : TestResult → Bool
  | .failed .. => true
  | _ => false

/-- A test case. -/
structure TestCase where
  name : String
  vars : Assoc String := .empty
  actions : List Action := []
  /-- What became of the actions that have run, in their order. -/
  states : List ActionState := []
  result : TestResult := .pending
  startedAt : Option Timestamp := none
  finishedAt : Option Timestamp := none

namespace TestCase

/-- The variable that holds the name of the running test case. -/
def nameVariable : String := "courier.test.name"

/-- Declare a variable; one that was declared keeps its place. -/
def declare (t : TestCase) (name value : String) : TestCase :=
  { t with vars := t.vars.insert name value }

/-- Put an action behind the others. -/
def add (t : TestCase) (a : Action) : TestCase := { t with actions := t.actions ++ [a] }

/-- Has the test case a start and an end? -/
def isTimed (t : TestCase) : Bool := t.startedAt.isSome && t.finishedAt.isSome

/-- Bind the variables that the test case declares. -/
def seed (t : TestCase) : Run Unit := do
  Run.bindVariable nameVariable (.text t.name)
  Run.bindTemplates t.vars.entries

/-- The test case with a result. -/
def complete (t : TestCase) (result : TestResult) (now : Timestamp) : TestCase :=
  { t with result, finishedAt := some now }

/-- Run actions in order, up to the first that fails: what became of them, and the error. -/
def runActions : List Action → StateM World (List ActionState × Option Error)
  | [] => return ([], none)
  | a :: as => do
    match ← a.execute.run with
    | .error e => return ([.failed], some e)
    | .ok state =>
      let (states, failure) ← runActions as
      return (state :: states, failure)

/-- Run the test case. It is run once only. -/
def run (t : TestCase) : StateM World (TestCase × Except Error Unit) := do
  if t.result ≠ .pending then return (t, .error (.config (.executed t.name)))
  let t := { t with startedAt := some (← get).fresh.now }
  match ← t.seed.run with
  | .error e => return (t.complete (.ofError e) (← get).fresh.now, .error e)
  | .ok () =>
    let (states, failure) ← runActions t.actions
    let t := { t with states := t.states ++ states }
    -- the states are kept up to the failing action, and those behind it have none
    match failure with
    | some e => return (t.complete (.ofError e) (← get).fresh.now, .error e)
    | none => return (t.complete .success (← get).fresh.now, .ok ())

end TestCase

namespace Runner

/-- Start to run actions one by one. -/
def start (t : TestCase) : StateM World (TestCase × Except Error Unit) := do
  let t := { t with startedAt := some (← get).fresh.now }
  match ← t.seed.run with
  | .error e => return (t.complete (.ofError e) (← get).fresh.now, .error e)
  | .ok () => return (t, .ok ())

/-- Run an action now and record it. Once an action has failed no other one is run. -/
def run (t : TestCase) (a : Action) : StateM World (TestCase × Except Error ActionState) := do
  if t.result.isFailed then return (t, .error (.aborted t.name))
  let t := t.add a
  match ← a.execute.run with
  | .ok state => return ({ t with states := t.states ++ [state] }, .ok state)
  | .error e =>
    let t := { t with states := t.states ++ [ActionState.failed] }
    return (t.complete (.ofError e) (← get).fresh.now, .error e)

/-- End the run, with success if nothing has failed. -/
def finish (t : TestCase) : StateM World TestCase := do
  if t.result = .pending then return t.complete .success (← get).fresh.now
  else return t

end Runner

/-! ### Suites -/

/-- When the actions of a suite run. -/
inductive SuitePhase
  | before
  | after
  deriving DecidableEq, Repr

def SuitePhase.name : SuitePhase → String
  | .before => "before-suite"
  | .after => "after-suite"

/-- Actions that run before or after a group of test cases. -/
structure Suite where
  name : String
  phase : SuitePhase
  actions : List Action

/-- Run the actions; an error is wrapped with the name of the suite. -/
def Suite.run (s : Suite) : Run (List ActionState) :=
  Run.within s.name (Action.executeAll s.actions)

end Rehearsal
