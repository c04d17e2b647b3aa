import OneShot.Runner

/-! What a host does with a runner: invocations, by argument or by stream, and closes, in any order. -/

namespace OneShot

inductive Invocation
  | run (argv : List ByteArray) (sink : Sink) {b : DataType} (body : Body b)
  | stream (source : Source) (sink : Sink) (e : StreamExecutor) (debug : Bool)

namespace Invocation

def execute (argv : List ByteArray) (sink : Sink) {a b : DataType} (e : Executor a b) : Invocation :=
  .run argv sink e.body

def executeStream (source : Source) (sink : Sink) {a b : DataType} (e : StreamFunction a b)
    (debug : Bool) : Invocation :=
  .stream source sink e.run debug

end Invocation

namespace Container

def serve (c : Container) : Invocation → Report
  | .run argv sink body => c.invoke argv sink body
  | .stream source sink e debug => c.stream source sink e debug

theorem serve_execute (c : Container) (argv : List ByteArray) (sink : Sink) {a b : DataType}
    (f : Function a b) : c.serve (.execute argv sink f.executor) = c.execute argv sink f := rfl

theorem serve_executeStream (c : Container) (source : Source) (sink : Sink) {a b : DataType}
    (e : StreamFunction a b) (debug : Bool) :
    c.serve (.executeStream source sink e debug) = c.executeStream source sink e debug := rfl

end Container

namespace Runner

inductive Step
  | invoke (q : Invocation)
  | close

structure Served where
  container : Container
  invocation : Invocation
  report : Report

def invocations (steps : List Step) : List Invocation :=
  steps.filterMap fun
    | .invoke q => some q
    | .close => none

/-- What becomes of the invocations of a host. An invocation leaves the runner as it is. -/
def served (r : Runner) : List Step → List Served
  | [] => []
  | .invoke q :: steps => ⟨r.container, q, r.container.serve q⟩ :: r.served steps
  | .close :: steps => r.close.runner.served steps

theorem map_invocation_served (r : Runner) (steps : List Step) :
    (r.served steps).map Served.invocation = invocations steps := by
  induction steps generalizing r with
  | nil => rfl
  | cons step steps ih =>
    cases step with
    | invoke q => simpa [served, invocations] using ih r
    | close => simpa [served, invocations] using ih r.close.runner

theorem report_of_mem_served {r : Runner} {steps : List Step} {s : Served}
    (h : s ∈ r.served steps) : s.report = s.container.serve s.invocation := by
  induction steps generalizing r with
  | nil => cases h
  | cons step steps ih =>
    cases step with
    | invoke q =>
      rcases List.mem_cons.mp h with rfl | h
      · rfl
      · exact ih h
    | close => exact ih h

end Runner

end OneShot
