import OneShot.BeanStore
import Mathlib.Data.List.Basic

/-! Runs of operations on a store: the store after a run, the hooks that ran in it, and what the run
registered. -/

namespace OneShot.BeanStore

variable {K : Type} {Val : K → Type}

inductive Operation (K : Type) (Val : K → Type)
  | register (k : K) (v : Val k)
  | onStartup (hook : StartupHook K)
  | onShutdown (hook : ShutdownHook)
  | start
  | close
  | find (k : K)
  | get (k : K)
  | contains (k : K)
  | inject (target : Recipient K Val)

def next [DecidableEq K] (c : BeanStore K Val) : Operation K Val → BeanStore K Val
  | .register k v => c.register k v
  | .onStartup hook => c.onStartup hook
  | .onShutdown hook => c.onShutdown hook
  | .start => c.start.container
  | .close => c.close.container
  | .find _ | .get _ | .contains _ | .inject _ => c

def hooksRun (c : BeanStore K Val) : Operation K Val → List HookEvent
  | .start => c.start.events
  | .close => c.close.events
  | _ => []

def after [DecidableEq K] (c : BeanStore K Val) (run : List (Operation K Val)) : BeanStore K Val :=
  run.foldl next c

def events [DecidableEq K] (c : BeanStore K Val) : List (Operation K Val) → List HookEvent
  | [] => []
  | op :: run => c.hooksRun op ++ (c.next op).events run

def startupHooks (run : List (Operation K Val)) : List (StartupHook K) :=
  run.filterMap fun
    | .onStartup hook => some hook
    | _ => none

def shutdownHooks (run : List (Operation K Val)) : List ShutdownHook :=
  run.filterMap fun
    | .onShutdown hook => some hook
    | _ => none

def registered? [DecidableEq K] (k : K) : Operation K Val → Option (Val k)
  | .register l v => if h : l = k then some (h ▸ v) else none
  | _ => none

def registrations [DecidableEq K] (k : K) (run : List (Operation K Val)) : List (Val k) :=
  run.filterMap (registered? k)

def startedNames (events : List HookEvent) : List String :=
  events.filterMap fun
    | .started name _ _ => some name
    | .stopped _ => none

def stoppedNames (events : List HookEvent) : List String :=
  events.filterMap fun
    | .started _ _ _ => none
    | .stopped name => some name

@[simp] theorem startedNames_append (es fs : List HookEvent) :
    startedNames (es ++ fs) = startedNames es ++ startedNames fs :=
  List.filterMap_append

@[simp] theorem stoppedNames_append (es fs : List HookEvent) :
    stoppedNames (es ++ fs) = stoppedNames es ++ stoppedNames fs :=
  List.filterMap_append

@[simp] theorem after_nil [DecidableEq K] (c : BeanStore K Val) : c.after [] = c := rfl

theorem after_append [DecidableEq K] (c : BeanStore K Val) (run more : List (Operation K Val)) :
    c.after (run ++ more) = (c.after run).after more :=
  List.foldl_append

theorem after_concat [DecidableEq K] (c : BeanStore K Val) (run : List (Operation K Val))
    (op : Operation K Val) : c.after (run ++ [op]) = (c.after run).next op :=
  c.after_append run [op]

theorem events_concat [DecidableEq K] (c : BeanStore K Val) (run : List (Operation K Val))
    (op : Operation K Val) :
    c.events (run ++ [op]) = c.events run ++ (c.after run).hooksRun op := by
  induction run generalizing c with
  | nil => simp [events]
  | cons first run ih =>
    simp only [List.cons_append, events, ih, List.append_assoc]
    rfl

theorem startupHooks_concat (run : List (Operation K Val)) (op : Operation K Val) :
    startupHooks (run ++ [op]) = startupHooks run ++ startupHooks [op] :=
  List.filterMap_append

theorem shutdownHooks_concat (run : List (Operation K Val)) (op : Operation K Val) :
    shutdownHooks (run ++ [op]) = shutdownHooks run ++ shutdownHooks [op] :=
  List.filterMap_append

theorem getLast?_registrations_concat [DecidableEq K] (k : K) (run : List (Operation K Val))
    (op : Operation K Val) :
    (registrations k (run ++ [op])).getLast? =
      (registered? k op).or (registrations k run).getLast? := by
  cases h : registered? k op with
  | none => simp [registrations, h]
  | some v => simp [registrations, h]

end OneShot.BeanStore
