import OneShot.Fault

/-! A store of beans for any family of kinds: at most one bean of each kind, and hooks that run when the
store starts and when it closes. It is created, runs, and is closed once; a closed store has no beans. -/

namespace OneShot

class KindName (K : Type) where
  typeName : K → String

/-- A hook run when a store starts. It looks for a bean, and may fail. -/
structure StartupHook (K : Type) where
  name : String
  sees : K
  fault? : Option Fault

structure ShutdownHook where
  name : String
  fault? : Option Fault

inductive HookEvent
  | started (name : String) (phase : Phase) (saw : Bool)
  | stopped (name : String)
  deriving DecidableEq

structure BeanStore (K : Type) (Val : K → Type) where
  bean? : (k : K) → Option (Val k)
  startup : List (StartupHook K)
  shutdown : List ShutdownHook
  phase : Phase

structure Transition (K : Type) (Val : K → Type) where
  result : Except Fault Unit
  container : BeanStore K Val
  events : List HookEvent

structure Recipient (K : Type) (Val : K → Type) where
  needs : List K
  fault? : Option Fault
  injections : Nat
  found : List ((k : K) × Val k)

namespace BeanStore

variable {K : Type} {Val : K → Type}

def empty : BeanStore K Val :=
  ⟨fun _ => none, [], [], .created⟩

def register [DecidableEq K] (c : BeanStore K Val) (k : K) (v : Val k) : BeanStore K Val :=
  { c with bean? := fun l => if h : k = l then some (h ▸ v) else c.bean? l }

def isRunning (c : BeanStore K Val) : Bool :=
  c.phase = .running

def isClosed (c : BeanStore K Val) : Bool :=
  c.phase = .closed

/-- The bean of a kind, if there is one and the store is not closed. -/
def find? (c : BeanStore K Val) (k : K) : Option (Val k) :=
  if c.isClosed then none else c.bean? k

def contains (c : BeanStore K Val) (k : K) : Bool :=
  (c.find? k).isSome

def get [KindName K] (c : BeanStore K Val) (k : K) : Except Fault (Val k) :=
  match c.find? k with
  | some v => .ok v
  | none => .error (.beanNotFound (KindName.typeName k))

def onStartup (c : BeanStore K Val) (hook : StartupHook K) : BeanStore K Val :=
  { c with startup := c.startup ++ [hook] }

def onShutdown (c : BeanStore K Val) (hook : ShutdownHook) : BeanStore K Val :=
  { c with shutdown := c.shutdown ++ [hook] }

/-- Runs startup hooks up to the first that fails. -/
def runStartup (c : BeanStore K Val) : List (StartupHook K) → Except Fault Unit × List HookEvent
  | [] => (.ok (), [])
  | hook :: hooks =>
    let event := HookEvent.started hook.name c.phase (c.contains hook.sees)
    match hook.fault? with
    | some fault => (.error fault, [event])
    | none =>
      let (result, events) := c.runStartup hooks
      (result, event :: events)

/-- Starts a created store. Hooks are given up when they have been tried, whether or not one of them
fails. -/
def start (c : BeanStore K Val) : Transition K Val :=
  if c.phase = .created then
    let taken := { c with startup := [] }
    match taken.runStartup c.startup with
    | (.ok (), events) => ⟨.ok (), { taken with phase := .running }, events⟩
    | (.error fault, events) => ⟨.error fault, taken, events⟩
  else ⟨.error (.container (.cannotStart c.phase)), c, []⟩

def firstFault (hooks : List ShutdownHook) : Except Fault Unit :=
  match hooks.findSome? ShutdownHook.fault? with
  | some fault => .error fault
  | none => .ok ()

/-- Closes a store: every shutdown hook runs, the newest first, and the beans are dropped. -/
def close (c : BeanStore K Val) : Transition K Val :=
  if c.isClosed then ⟨.error (.container .alreadyClosed), c, []⟩
  else
    let hooks := c.shutdown.reverse
    ⟨firstFault hooks, ⟨fun _ => none, [], [], .closed⟩,
      hooks.map fun hook => .stopped hook.name⟩

def collect [KindName K] (c : BeanStore K Val) : List K → List ((k : K) × Val k) →
    Except Fault Unit × List ((k : K) × Val k)
  | [], found => (.ok (), found)
  | k :: ks, found =>
    match c.get k with
    | .ok v => c.collect ks (found ++ [⟨k, v⟩])
    | .error fault => (.error fault, found)

def inject [KindName K] (c : BeanStore K Val) (target : Recipient K Val) :
    Except Fault Unit × Recipient K Val :=
  if c.isClosed then (.error (.container .cannotInject), target)
  else
    let (result, found) := c.collect target.needs target.found
    let result := match result, target.fault? with
      | .ok (), some fault => .error fault
      | result, _ => result
    (result, { target with injections := target.injections + 1, found })

theorem bean?_register_self [DecidableEq K] (c : BeanStore K Val) (k : K) (v : Val k) :
    (c.register k v).bean? k = some v := by
  simp [register]

theorem bean?_register_of_ne [DecidableEq K] (c : BeanStore K Val) {k l : K} (v : Val k)
    (h : k ≠ l) : (c.register k v).bean? l = c.bean? l := by
  simp [register, h]

theorem find?_of_open {c : BeanStore K Val} (h : c.phase ≠ .closed) (k : K) :
    c.find? k = c.bean? k := by
  simp [find?, isClosed, h]

theorem find?_of_closed {c : BeanStore K Val} (h : c.phase = .closed) (k : K) :
    c.find? k = none := by
  simp [find?, isClosed, h]

theorem get_of_some [KindName K] {c : BeanStore K Val} {k : K} {v : Val k}
    (h : c.find? k = some v) : c.get k = .ok v := by
  simp only [get, h]

theorem get_of_none [KindName K] {c : BeanStore K Val} {k : K} (h : c.find? k = none) :
    c.get k = .error (.beanNotFound (KindName.typeName k)) := by
  simp only [get, h]

theorem contains_of_closed {c : BeanStore K Val} (h : c.phase = .closed) (k : K) :
    c.contains k = false := by
  simp [contains, find?_of_closed h]

theorem get_of_closed [KindName K] {c : BeanStore K Val} (h : c.phase = .closed) (k : K) :
    c.get k = .error (.beanNotFound (KindName.typeName k)) :=
  get_of_none (find?_of_closed h k)

theorem inject_of_closed [KindName K] {c : BeanStore K Val} (h : c.phase = .closed)
    (target : Recipient K Val) :
    c.inject target = (.error (.container .cannotInject), target) := by
  simp [inject, isClosed, h]

theorem close_of_closed {c : BeanStore K Val} (h : c.phase = .closed) :
    c.close = ⟨.error (.container .alreadyClosed), c, []⟩ := by
  simp [close, isClosed, h]

theorem close_of_open {c : BeanStore K Val} (h : c.phase ≠ .closed) :
    c.close = ⟨firstFault c.shutdown.reverse, ⟨fun _ => none, [], [], .closed⟩,
      c.shutdown.reverse.map fun hook => .stopped hook.name⟩ := by
  simp [close, isClosed, h]

theorem start_of_ne_created {c : BeanStore K Val} (h : c.phase ≠ .created) :
    c.start = ⟨.error (.container (.cannotStart c.phase)), c, []⟩ := by
  simp [start, h]

/-- All that a start can do to a created store: the startup hooks are gone, and it runs or stays as it
was. -/
theorem start_of_created {c : BeanStore K Val} (h : c.phase = .created) :
    c.start.events = (BeanStore.runStartup { c with startup := [] } c.startup).2 ∧
    ((c.start.result = .ok () ∧
        c.start.container = { c with startup := [], phase := .running }) ∨
      ((∃ fault, c.start.result = .error fault) ∧
        c.start.container = { c with startup := [] })) := by
  simp only [start, h, if_true]
  split
  · rename_i he
    exact ⟨by simp [he], .inl ⟨rfl, rfl⟩⟩
  · rename_i fault events he
    exact ⟨by simp [he], .inr ⟨⟨fault, rfl⟩, by simp⟩⟩

@[simp] theorem bean?_start (c : BeanStore K Val) : c.start.container.bean? = c.bean? := by
  by_cases h : c.phase = .created
  · rcases (start_of_created h).2 with ⟨_, he⟩ | ⟨_, he⟩ <;> rw [he]
  · rw [start_of_ne_created h]

@[simp] theorem shutdown_start (c : BeanStore K Val) : c.start.container.shutdown = c.shutdown := by
  by_cases h : c.phase = .created
  · rcases (start_of_created h).2 with ⟨_, he⟩ | ⟨_, he⟩ <;> rw [he]
  · rw [start_of_ne_created h]

end BeanStore

end OneShot
