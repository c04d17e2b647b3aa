import OneShot.Container
import OneShot.Proofs.BeanStore.History
import Mathlib.Data.List.Induction

/-! The life of a store under any run of operations. Hooks run at most once, beans are found as they were
registered last, and a store that is closed stays closed. -/

namespace OneShot

inductive Phase.Moves : Phase → Phase → Prop
  | stay (phase : Phase) : Moves phase phase
  | start : Moves .created .running
  | abandon : Moves .created .closed
  | close : Moves .running .closed

namespace BeanStore

variable {K : Type} {Val : K → Type}

/-- A store that nothing has happened to but the registration of beans. -/
structure IsNew (c : BeanStore K Val) : Prop where
  startup : c.startup = []
  shutdown : c.shutdown = []
  phase : c.phase = .created

/-- A store that has no beans to give and refuses to change. -/
structure IsShut [KindName K] (c : BeanStore K Val) : Prop where
  find? : ∀ k, c.find? k = none
  contains : ∀ k, c.contains k = false
  get : ∀ k, c.get k = .error (.beanNotFound (KindName.typeName k))
  inject : ∀ target, ∃ fault, c.inject target = (.error (.container fault), target)
  start : ∃ fault, c.start = ⟨.error (.container fault), c, []⟩
  close : ∃ fault, c.close = ⟨.error (.container fault), c, []⟩

theorem isShut_of_closed [KindName K] {c : BeanStore K Val} (h : c.phase = .closed) :
    c.IsShut where
  find? := find?_of_closed h
  contains := contains_of_closed h
  get := get_of_closed h
  inject target := ⟨_, inject_of_closed h target⟩
  start := ⟨_, start_of_ne_created (by simp [h])⟩
  close := ⟨_, close_of_closed h⟩

theorem phase_next [DecidableEq K] (c : BeanStore K Val) (op : Operation K Val) :
    Phase.Moves c.phase (c.next op).phase := by
  cases op with
  | start =>
    by_cases h : c.phase = .created
    · rcases (start_of_created h).2 with ⟨_, he⟩ | ⟨_, he⟩
      · simpa only [next, he, h] using Phase.Moves.start
      · simpa only [next, he] using Phase.Moves.stay c.phase
    · simpa only [next, start_of_ne_created h] using Phase.Moves.stay c.phase
  | close =>
    by_cases h : c.phase = .closed
    · simpa only [next, close_of_closed h] using Phase.Moves.stay c.phase
    · simp only [next, close_of_open h]
      cases hp : c.phase with
      | created => exact .abandon
      | running => exact .close
      | closed => exact absurd hp h
  | _ => exact .stay c.phase

theorem open_of_next_open [DecidableEq K] {c : BeanStore K Val} {op : Operation K Val}
    (h : (c.next op).phase ≠ .closed) : c.phase ≠ .closed := by
  intro hc
  have hm := c.phase_next op
  rw [hc] at hm
  cases hp : (c.next op).phase with
  | closed => exact h hp
  | _ => rw [hp] at hm; cases hm

theorem closed_after [DecidableEq K] {c : BeanStore K Val} (h : c.phase = .closed)
    (run : List (Operation K Val)) : (c.after run).phase = .closed := by
  induction run using List.reverseRecOn with
  | nil => exact h
  | append_singleton run op ih =>
    by_contra hne
    rw [after_concat] at hne
    exact open_of_next_open hne ih

theorem bean?_next [DecidableEq K] {c : BeanStore K Val} {op : Operation K Val}
    (h : (c.next op).phase ≠ .closed) (k : K) :
    (c.next op).bean? k = (registered? k op).or (c.bean? k) := by
  cases op with
  | register l v =>
    by_cases hk : l = k
    · subst hk
      simp [next, registered?, bean?_register_self]
    · simp [next, registered?, hk, bean?_register_of_ne c v hk]
  | start => simp [next, registered?]
  | close =>
    have ho := open_of_next_open h
    exact absurd (by simp [next, close_of_open ho]) h
  | _ => rfl

theorem shutdown_next [DecidableEq K] {c : BeanStore K Val} {op : Operation K Val}
    (h : (c.next op).phase ≠ .closed) :
    (c.next op).shutdown = c.shutdown ++ shutdownHooks [op] := by
  cases op with
  | onShutdown hook => rfl
  | start => simp [next, shutdownHooks]
  | close =>
    have ho := open_of_next_open h
    exact absurd (by simp [next, close_of_open ho]) h
  | _ => exact (List.append_nil _).symm

theorem startedNames_runStartup (c : BeanStore K Val) (hooks : List (StartupHook K)) :
    startedNames (c.runStartup hooks).2 <+: hooks.map StartupHook.name := by
  induction hooks with
  | nil => exact List.prefix_rfl
  | cons hook hooks ih =>
    cases hf : hook.fault? with
    | some fault => simp [runStartup, hf, startedNames]
    | none =>
      simpa [runStartup, hf, startedNames, List.prefix_cons_inj] using ih

theorem stoppedNames_runStartup (c : BeanStore K Val) (hooks : List (StartupHook K)) :
    stoppedNames (c.runStartup hooks).2 = [] := by
  induction hooks with
  | nil => rfl
  | cons hook hooks ih =>
    cases hf : hook.fault? with
    | some fault => simp [runStartup, hf, stoppedNames]
    | none => simpa [runStartup, hf, stoppedNames] using ih

/-- A startup hook that has run is not kept to run again. -/
theorem started_next [DecidableEq K] (c : BeanStore K Val) (op : Operation K Val) :
    (startedNames (c.hooksRun op) ++ (c.next op).startup.map StartupHook.name).Sublist
      (c.startup.map StartupHook.name ++ (startupHooks [op]).map StartupHook.name) := by
  cases op with
  | onStartup hook => simp [next, hooksRun, startedNames, startupHooks, onStartup]
  | start =>
    by_cases hc : c.phase = .created
    · obtain ⟨he, hs⟩ := start_of_created hc
      have hnil : c.start.container.startup = [] := by
        rcases hs with ⟨_, hs⟩ | ⟨_, hs⟩ <;> rw [hs]
      have hp := startedNames_runStartup { c with startup := [] } c.startup
      simpa [next, hooksRun, hnil, he, startupHooks] using hp.sublist
    · simp [next, hooksRun, start_of_ne_created hc, startedNames, startupHooks]
  | close =>
    by_cases hc : c.phase = .closed
    · simp [next, hooksRun, close_of_closed hc, startedNames, startupHooks]
    · simp [next, hooksRun, close_of_open hc, startedNames, startupHooks]
  | _ => simp [next, hooksRun, startedNames, startupHooks, register, onShutdown]

theorem stoppedNames_hooksRun {c : BeanStore K Val} {op : Operation K Val} (h : op ≠ .close) :
    stoppedNames (c.hooksRun op) = [] := by
  cases op with
  | start =>
    by_cases hc : c.phase = .created
    · simpa only [hooksRun, (start_of_created hc).1] using stoppedNames_runStartup _ _
    · simp [hooksRun, start_of_ne_created hc, stoppedNames]
  | close => exact absurd rfl h
  | _ => rfl

theorem stoppedNames_close {c : BeanStore K Val} (h : c.phase ≠ .closed) :
    stoppedNames c.close.events = (c.shutdown.map ShutdownHook.name).reverse := by
  simp [close_of_open h, stoppedNames]

theorem firstFault_reverse (hooks : List ShutdownHook) :
    firstFault hooks.reverse =
      match (hooks.filterMap ShutdownHook.fault?).getLast? with
      | some fault => .error fault
      | none => .ok () := by
  have h : hooks.reverse.findSome? ShutdownHook.fault? =
      (hooks.filterMap ShutdownHook.fault?).getLast? := by
    rw [← List.head?_filterMap, List.filterMap_reverse, List.head?_reverse]
  rw [← h]
  rfl

/-- What a run leaves of a new store `c`: the store `s`, and the hooks that ran. -/
structure Reached [DecidableEq K] (c s : BeanStore K Val) (run : List (Operation K Val))
    (events : List HookEvent) : Prop where
  bean? : s.phase ≠ .closed → ∀ k, s.bean? k = (registrations k run).getLast?.or (c.bean? k)
  shutdown : s.phase ≠ .closed → s.shutdown = shutdownHooks run
  unstopped : s.phase ≠ .closed → stoppedNames events = []
  stopped : (stoppedNames events).Sublist ((shutdownHooks run).map ShutdownHook.name).reverse
  started : (startedNames events ++ s.startup.map StartupHook.name).Sublist
    ((startupHooks run).map StartupHook.name)

theorem Reached.of_isNew [DecidableEq K] {c : BeanStore K Val} (h : c.IsNew) :
    Reached c c [] [] where
  bean? _ _ := by simp [registrations]
  shutdown _ := h.shutdown
  unstopped _ := rfl
  stopped := by simp [stoppedNames]
  started := by simp [startedNames, h.startup]

theorem Reached.next [DecidableEq K] {c s : BeanStore K Val} {run : List (Operation K Val)}
    {events : List HookEvent} (h : Reached c s run events) (op : Operation K Val) :
    Reached c (s.next op) (run ++ [op]) (events ++ s.hooksRun op) := by
  refine ⟨?bean?, ?shutdown, ?unstopped, ?stopped, ?started⟩
  case bean? =>
    intro ho k
    rw [bean?_next ho, h.bean? (open_of_next_open ho), getLast?_registrations_concat,
      Option.or_assoc]
  case shutdown =>
    intro ho
    rw [shutdown_next ho, h.shutdown (open_of_next_open ho), shutdownHooks_concat]
  case unstopped =>
    intro ho
    have hop : op ≠ .close := by
      rintro rfl
      exact ho (by simp [BeanStore.next, close_of_open (open_of_next_open ho)])
    rw [stoppedNames_append, h.unstopped (open_of_next_open ho), stoppedNames_hooksRun hop]
    rfl
  case stopped =>
    rw [stoppedNames_append, shutdownHooks_concat, List.map_append, List.reverse_append]
    by_cases hop : op = .close
    · subst hop
      by_cases hc : s.phase = .closed
      · simpa [hooksRun, close_of_closed hc, stoppedNames, shutdownHooks] using h.stopped
      · -- Nothing was stopped before, so the names are those of this close alone.
        simp [hooksRun, stoppedNames_close hc, h.unstopped hc, h.shutdown hc, shutdownHooks]
    · rw [stoppedNames_hooksRun hop, List.append_nil]
      exact h.stopped.trans (List.sublist_append_right _ _)
  case started =>
    have hop := (started_next s op).append_left (startedNames events)
    have hrun := h.started.append_right ((startupHooks [op]).map StartupHook.name)
    rw [startedNames_append, startupHooks_concat, List.map_append, List.append_assoc]
    exact hop.trans (by simpa only [List.append_assoc] using hrun)

theorem reached_after [DecidableEq K] {c : BeanStore K Val} (h : c.IsNew)
    (run : List (Operation K Val)) : Reached c (c.after run) run (c.events run) := by
  induction run using List.reverseRecOn with
  | nil => exact .of_isNew h
  | append_singleton run op ih =>
    rw [after_concat, events_concat]
    exact ih.next op

/-- What holds of a new store `c` after a run, whatever comes next. -/
structure Lifecycle [DecidableEq K] [KindName K] (c : BeanStore K Val)
    (run : List (Operation K Val)) : Prop where
  moves : ∀ op, Phase.Moves (c.after run).phase (c.after (run ++ [op])).phase
  /-- Each startup hook runs at most once, in the order of registration. -/
  started : (startedNames (c.events run)).Sublist ((startupHooks run).map StartupHook.name)
  /-- Each shutdown hook runs at most once. -/
  stopped : (stoppedNames (c.events run)).Sublist
    ((shutdownHooks run).map ShutdownHook.name).reverse
  stopped_close : ∀ op, op ≠ .close → stoppedNames ((c.after run).hooksRun op) = []
  closed : (c.after (run ++ [.close])).phase = .closed
  /-- The close of an open store runs all shutdown hooks, the newest first, failing or not. -/
  close_events : (c.after run).phase ≠ .closed →
    (c.after run).close.events = (shutdownHooks run).reverse.map fun hook => .stopped hook.name
  close_result : (c.after run).phase ≠ .closed →
    (c.after run).close.result =
      match ((shutdownHooks run).filterMap ShutdownHook.fault?).getLast? with
      | some fault => .error fault
      | none => .ok ()
  find? : (c.after run).phase ≠ .closed →
    ∀ k, (c.after run).find? k = (registrations k run).getLast?.or (c.bean? k)
  find?_none : (c.after run).phase ≠ .closed →
    ∀ k, (c.after run).find? k = none ↔ registrations k run = [] ∧ c.bean? k = none
  /-- A closed store is shut whatever is done to it. -/
  shut : (c.after run).phase = .closed →
    ∀ more, (c.after (run ++ more)).phase = .closed ∧ (c.after (run ++ more)).IsShut

theorem lifecycle_of_isNew [DecidableEq K] [KindName K] {c : BeanStore K Val} (h : c.IsNew)
    (run : List (Operation K Val)) : c.Lifecycle run := by
  have hr := reached_after h run
  refine ⟨?moves, ?started, hr.stopped, ?stopped_close, ?closed, ?close_events, ?close_result,
    ?find?, ?find?_none, ?shut⟩
  case moves =>
    intro op
    rw [after_concat]
    exact phase_next _ op
  case started => exact (List.sublist_append_left _ _).trans hr.started
  case stopped_close => exact fun op hop => stoppedNames_hooksRun hop
  case closed =>
    rw [after_concat]
    by_cases hc : (c.after run).phase = .closed
    · simpa only [next, close_of_closed hc] using hc
    · simp [next, close_of_open hc]
  case close_events => exact fun ho => by rw [close_of_open ho, hr.shutdown ho]
  case close_result => exact fun ho => by rw [close_of_open ho, hr.shutdown ho, firstFault_reverse]
  case find? => exact fun ho k => by rw [find?_of_open ho, hr.bean? ho]
  case find?_none =>
    intro ho k
    rw [find?_of_open ho, hr.bean? ho, Option.or_eq_none_iff, List.getLast?_eq_none_iff]
  case shut =>
    intro hc more
    have hm := closed_after hc more
    rw [after_append]
    exact ⟨hm, isShut_of_closed hm⟩

/-- A hook that fails when it stops, and a bean that comes too late. -/
theorem lifecycle_standard_run :
    Container.standard.IsNew ∧
      Container.standard.Lifecycle [.onStartup ⟨"warm", .config, none⟩,
        .onShutdown ⟨"flush", some .noData⟩, .start, .close, .register .greeting "late"] :=
  ⟨⟨rfl, rfl, rfl⟩, lifecycle_of_isNew ⟨rfl, rfl, rfl⟩ _⟩

end BeanStore

end OneShot
