import OneShot.Invocation

/-! A runner drives invocations against a container that it owns or borrows. An owned container is
started when the runner is made and closed once, by the runner or with it; a borrowed one is left as
it is. -/

namespace OneShot

inductive Ownership
  | owned
  | borrowed
  deriving DecidableEq, Repr

structure Runner where
  ownership : Ownership
  container : Container
  target : Target
  closed : Bool

structure Runner.Closing where
  result : Except Fault Unit
  runner : Runner
  events : List HookEvent

/-- What the making of a runner came to: the runner, the target as the attempt leaves it, and the hooks
that ran. -/
structure Runner.Making where
  result : Except Fault Runner
  target : Target
  events : List HookEvent

namespace Runner

/-- Releases the container if it is owned. The second time nothing happens. -/
def close (r : Runner) : Closing :=
  if r.closed then ⟨.ok (), r, []⟩
  else match r.ownership with
    | .borrowed => ⟨.ok (), { r with closed := true }, []⟩
    | .owned =>
      let t := r.container.close
      ⟨t.result, { r with container := t.container, closed := true }, t.events⟩

def drop (r : Runner) : Container × List HookEvent :=
  let closing := r.close
  (closing.runner.container, closing.events)

/-- Gives the target of a new runner its beans. A runner whose injection fails is given up. -/
def injected (r : Runner) : Making :=
  match r.container.inject r.target with
  | (.ok (), target) => ⟨.ok { r with target }, target, []⟩
  | (.error fault, target) => ⟨.error fault, target, r.drop.2⟩

/-- A runner that owns a configured container, which is started. If it does not start there is no
runner, and it is not closed. -/
def owning (container : Container) (target : Target) : Making :=
  let t := container.start
  match t.result with
  | .error fault => ⟨.error fault, target, t.events⟩
  | .ok () =>
    let making := injected ⟨.owned, t.container, target, false⟩
    { making with events := t.events ++ making.events }

/-- A runner on a container of the host, which injects or leaves the target as it is. -/
def borrowing (container : Container) (target : Target) (inject : Bool) : Making :=
  let r : Runner := ⟨.borrowed, container, target, false⟩
  if inject then r.injected else ⟨.ok r, target, []⟩

def run (r : Runner) (argv : List ByteArray) (sink : Sink) {b : DataType} (body : Body b) :
    Report :=
  r.container.invoke argv sink body

def execute (r : Runner) (argv : List ByteArray) (sink : Sink) {a b : DataType}
    (f : Function a b) : Report :=
  r.container.execute argv sink f

def executeStream (r : Runner) (source : Source) (sink : Sink) {a b : DataType}
    (e : StreamFunction a b) (debug : Bool) : Report :=
  r.container.executeStream source sink e debug

end Runner

end OneShot
