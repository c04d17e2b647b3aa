import OneShot.Proofs.BeanStore.Lifecycle

/-! What has been started when a store runs. A start gives up the hooks that it takes, so a start that
fails leaves hooks behind it that never run, although a later start may succeed. -/

namespace OneShot.BeanStore

variable {K : Type} {Val : K → Type}

/-- The event of a startup hook that runs before its store does. -/
def started (c : BeanStore K Val) (hook : StartupHook K) : HookEvent :=
  .started hook.name .created (c.contains hook.sees)

def leftPending (hooks : List (StartupHook K)) : Operation K Val → List (StartupHook K)
  | .onStartup hook => hooks ++ [hook]
  | .start => []
  | _ => hooks

/-- The startup hooks that a run has registered since its last start. -/
def pendingHooks (run : List (Operation K Val)) : List (StartupHook K) :=
  run.foldl leftPending []

theorem pendingHooks_concat (run : List (Operation K Val)) (op : Operation K Val) :
    pendingHooks (run ++ [op]) = leftPending (pendingHooks run) op := by
  rw [pendingHooks, List.foldl_append]
  rfl

theorem pendingHooks_subset (run : List (Operation K Val)) :
    pendingHooks run ⊆ startupHooks run := by
  induction run using List.reverseRecOn with
  | nil => exact List.Subset.refl _
  | append_singleton run op ih =>
    rw [pendingHooks_concat, startupHooks_concat]
    cases op with
    | onStartup hook =>
      simp only [leftPending]
      exact List.append_subset.mpr
        ⟨List.subset_append_of_subset_left _ ih, List.subset_append_right _ _⟩
    | start => exact List.nil_subset _
    | _ => exact List.subset_append_of_subset_left _ ih

theorem pendingHooks_of_no_start {run : List (Operation K Val)} (h : .start ∉ run) :
    pendingHooks run = startupHooks run := by
  induction run using List.reverseRecOn with
  | nil => rfl
  | append_singleton run op ih =>
    simp only [List.mem_append, List.mem_singleton, not_or] at h
    rw [pendingHooks_concat, startupHooks_concat, ← ih h.1]
    cases op with
    | onStartup hook => rfl
    | start => exact absurd rfl h.2
    | _ => exact (List.append_nil _).symm

theorem startup_start {c : BeanStore K Val} (h : c.phase = .created) :
    c.start.container.startup = [] := by
  rcases (start_of_created h).2 with ⟨_, he⟩ | ⟨_, he⟩ <;> rw [he]

theorem created_of_next_created [DecidableEq K] {c : BeanStore K Val} {op : Operation K Val}
    (h : (c.next op).phase = .created) : c.phase = .created := by
  have hm := c.phase_next op
  rw [h] at hm
  cases hp : c.phase with
  | created => rfl
  | _ => rw [hp] at hm; cases hm

theorem startup_next [DecidableEq K] {c : BeanStore K Val} {op : Operation K Val}
    (h : (c.next op).phase = .created) : (c.next op).startup = leftPending c.startup op := by
  have hc := created_of_next_created h
  cases op with
  | start => exact startup_start hc
  | close =>
    rw [next, close_of_open (by simp [hc])] at h
    cases h
  | _ => rfl

theorem startup_after [DecidableEq K] {c : BeanStore K Val} (hn : c.IsNew)
    {run : List (Operation K Val)} (h : (c.after run).phase = .created) :
    (c.after run).startup = pendingHooks run := by
  induction run using List.reverseRecOn with
  | nil => exact hn.startup
  | append_singleton run op ih =>
    rw [after_concat] at h ⊢
    rw [startup_next h, ih (created_of_next_created h), pendingHooks_concat]

theorem runStartup_eq_ok_iff (c : BeanStore K Val) (hooks : List (StartupHook K)) :
    (c.runStartup hooks).1 = .ok () ↔ ∀ hook ∈ hooks, hook.fault? = none := by
  induction hooks with
  | nil => simp [runStartup]
  | cons hook hooks ih =>
    cases hf : hook.fault? with
    | some fault => simp [runStartup, hf]
    | none => simpa [runStartup, hf] using ih

theorem runStartup_events {c : BeanStore K Val} (hc : c.phase = .created)
    {hooks : List (StartupHook K)} (h : ∀ hook ∈ hooks, hook.fault? = none) :
    (c.runStartup hooks).2 = hooks.map c.started := by
  induction hooks with
  | nil => rfl
  | cons hook hooks ih =>
    rw [List.forall_mem_cons] at h
    simp [runStartup, h.1, ih h.2, started, hc]

theorem start_result {c : BeanStore K Val} (h : c.phase = .created) :
    c.start.result = (runStartup { c with startup := [] } c.startup).1 := by
  simp only [start, h, if_true]
  split <;> rename_i he <;> rw [he]

theorem start_eq_ok_iff {c : BeanStore K Val} :
    c.start.result = .ok () ↔ c.phase = .created ∧ ∀ hook ∈ c.startup, hook.fault? = none := by
  by_cases hc : c.phase = .created
  · rw [start_result hc, runStartup_eq_ok_iff, and_iff_right hc]
  · simp [start_of_ne_created hc, hc]

theorem start_of_ok {c : BeanStore K Val} (h : c.start.result = .ok ()) :
    c.start.container = { c with startup := [], phase := .running } ∧
      c.start.events = c.startup.map c.started := by
  obtain ⟨hc, hf⟩ := start_eq_ok_iff.mp h
  obtain ⟨he, hs⟩ := start_of_created hc
  refine ⟨?_, ?_⟩
  · rcases hs with ⟨_, hs⟩ | ⟨⟨fault, hs⟩, _⟩
    · exact hs
    · rw [h] at hs
      cases hs
  · rw [he, runStartup_events (by exact hc) hf]
    rfl

theorem startedNames_map_started (c : BeanStore K Val) (hooks : List (StartupHook K)) :
    startedNames (hooks.map c.started) = hooks.map StartupHook.name := by
  induction hooks with
  | nil => rfl
  | cons hook hooks ih => exact congrArg (hook.name :: ·) ih

/-- A start that fails has run its hooks up to the first that fails, and no more. -/
theorem runStartup_of_error {c : BeanStore K Val} (hc : c.phase = .created)
    {hooks : List (StartupHook K)} {fault : Fault} (h : (c.runStartup hooks).1 = .error fault) :
    ∃ done hook lost, hooks = done ++ hook :: lost ∧ (∀ hook ∈ done, hook.fault? = none) ∧
      hook.fault? = some fault ∧ (c.runStartup hooks).2 = (done ++ [hook]).map c.started := by
  induction hooks with
  | nil => cases h
  | cons hook hooks ih =>
    cases hf : hook.fault? with
    | some f =>
      simp only [runStartup, hf, Except.error.injEq] at h
      refine ⟨[], hook, hooks, rfl, by simp, h ▸ hf, ?_⟩
      simp [runStartup, hf, started, hc]
    | none =>
      simp only [runStartup, hf] at h
      obtain ⟨done, failed, lost, rfl, hd, hl, he⟩ := ih h
      refine ⟨hook :: done, failed, lost, rfl, List.forall_mem_cons.mpr ⟨hf, hd⟩, hl, ?_⟩
      simp [runStartup, hf, he, started, hc]

theorem start_of_error {c : BeanStore K Val} (hc : c.phase = .created) {fault : Fault}
    (h : c.start.result = .error fault) :
    c.start.container = { c with startup := [] } ∧
      ∃ done hook lost, c.startup = done ++ hook :: lost ∧ (∀ hook ∈ done, hook.fault? = none) ∧
        hook.fault? = some fault ∧ c.start.events = (done ++ [hook]).map c.started := by
  obtain ⟨he, hs⟩ := start_of_created hc
  refine ⟨?_, ?_⟩
  · rcases hs with ⟨hs, _⟩ | ⟨_, hs⟩
    · rw [h] at hs
      cases hs
    · exact hs
  · rw [start_result hc] at h
    obtain ⟨done, hook, lost, hl, hd, hf, hx⟩ := runStartup_of_error (by exact hc) h
    exact ⟨done, hook, lost, hl, hd, hf, he.trans hx⟩

theorem startedNames_of_no_start [DecidableEq K] (c : BeanStore K Val)
    {run : List (Operation K Val)} (h : .start ∉ run) : startedNames (c.events run) = [] := by
  induction run using List.reverseRecOn with
  | nil => rfl
  | append_singleton run op ih =>
    simp only [List.mem_append, List.mem_singleton, not_or] at h
    rw [events_concat, startedNames_append, ih h.1, List.nil_append]
    cases op with
    | start => exact absurd rfl h.2
    | close =>
      by_cases hc : (c.after run).phase = .closed
      · simp [hooksRun, close_of_closed hc, startedNames]
      · simp [hooksRun, close_of_open hc, startedNames]
    | _ => rfl

/-- A store that is still created after a start has a hook that failed. -/
theorem exists_fault_of_created [DecidableEq K] {c : BeanStore K Val} (hn : c.IsNew)
    {run : List (Operation K Val)} (h : (c.after run).phase = .created) (hs : .start ∈ run) :
    ∃ hook ∈ startupHooks run, hook.fault? ≠ none := by
  induction run using List.reverseRecOn with
  | nil => cases hs
  | append_singleton run op ih =>
    rw [after_concat] at h
    rw [startupHooks_concat]
    have hc := created_of_next_created h
    rcases List.mem_append.mp hs with hs | hs
    · obtain ⟨hook, hm, hf⟩ := ih hc hs
      exact ⟨hook, List.mem_append_left _ hm, hf⟩
    · obtain rfl := List.mem_singleton.mp hs
      -- Were every registered hook sound, this start would have come to a running store.
      by_contra hne
      have hok : (c.after run).start.result = .ok () := by
        refine start_eq_ok_iff.mpr ⟨hc, fun hook hm => ?_⟩
        by_contra hf
        rw [startup_after hn hc] at hm
        exact hne ⟨hook, List.mem_append_left _ (pendingHooks_subset run hm), hf⟩
      rw [next, (start_of_ok hok).1] at h
      cases h

/-- All startup hooks that a run registers have run, and none of them fails. -/
structure FullyStarted [DecidableEq K] (c : BeanStore K Val) (run : List (Operation K Val)) :
    Prop where
  ran : startedNames (c.events run) = (startupHooks run).map StartupHook.name
  unfailing : ∀ hook ∈ startupHooks run, hook.fault? = none

/-- What a start comes to after a run of a new store `c`. -/
structure StartAfter [DecidableEq K] (c : BeanStore K Val) (run : List (Operation K Val)) :
    Prop where
  ok_iff : (c.after run).start.result = .ok () ↔
    (c.after run).phase = .created ∧ ∀ hook ∈ pendingHooks run, hook.fault? = none
  running : (c.after run).start.result = .ok () → (c.after (run ++ [.start])).phase = .running
  events : (c.after run).start.result = .ok () →
    (c.after run).start.events = (pendingHooks run).map (c.after run).started
  /-- The store runs with all its hooks if this start is the first, and only then. -/
  fullyStarted_iff : (c.after run).start.result = .ok () →
    (c.FullyStarted (run ++ [.start]) ↔ .start ∉ run)
  /-- What a start that fails has not come to is lost: no hook is pending any more. -/
  failed : (c.after run).phase = .created → ∀ fault, (c.after run).start.result = .error fault →
    (c.after (run ++ [.start])).phase = .created ∧ (c.after (run ++ [.start])).startup = [] ∧
    ∃ done hook lost, pendingHooks run = done ++ hook :: lost ∧
      (∀ hook ∈ done, hook.fault? = none) ∧ hook.fault? = some fault ∧
      (c.after run).start.events = (done ++ [hook]).map (c.after run).started

theorem fullyStarted_iff_of_ok [DecidableEq K] {c : BeanStore K Val} (hn : c.IsNew)
    {run : List (Operation K Val)} (h : (c.after run).start.result = .ok ()) :
    c.FullyStarted (run ++ [.start]) ↔ .start ∉ run := by
  obtain ⟨hc, hf⟩ := start_eq_ok_iff.mp h
  have hh : startupHooks (run ++ [.start]) = startupHooks run := by
    rw [startupHooks_concat]
    exact List.append_nil _
  constructor
  · intro hfull hs
    obtain ⟨hook, hm, hne⟩ := exists_fault_of_created hn hc hs
    exact hne (hfull.unfailing hook (hh ▸ hm))
  · intro hs
    have hp : (c.after run).startup = startupHooks run := by
      rw [startup_after hn hc, pendingHooks_of_no_start hs]
    refine ⟨?_, ?_⟩
    · rw [events_concat, startedNames_append, startedNames_of_no_start c hs, hh, hooksRun,
        (start_of_ok h).2, startedNames_map_started, hp, List.nil_append]
    · rw [hh, ← hp]
      exact hf

theorem startAfter_of_isNew [DecidableEq K] {c : BeanStore K Val} (hn : c.IsNew)
    (run : List (Operation K Val)) : c.StartAfter run := by
  refine ⟨?ok_iff, ?running, ?events, fullyStarted_iff_of_ok hn, ?failed⟩
  case ok_iff =>
    rw [start_eq_ok_iff]
    exact and_congr_right fun hc => by rw [startup_after hn hc]
  case running =>
    intro h
    rw [after_concat, next, (start_of_ok h).1]
  case events =>
    intro h
    rw [(start_of_ok h).2, startup_after hn (start_eq_ok_iff.mp h).1]
  case failed =>
    intro hc fault h
    obtain ⟨he, hl⟩ := start_of_error hc h
    rw [startup_after hn hc] at hl
    rw [after_concat, next, he]
    exact ⟨hc, rfl, hl⟩

/-- A start after one that failed, and after one more hook. -/
theorem startAfter_standard_retry :
    Container.standard.IsNew ∧
      Container.standard.StartAfter [.onStartup ⟨"warm", .config, some .noData⟩,
        .onStartup ⟨"listen", .config, none⟩, .start, .onStartup ⟨"late", .number, none⟩] :=
  ⟨⟨rfl, rfl, rfl⟩, startAfter_of_isNew ⟨rfl, rfl, rfl⟩ _⟩

/-- A hook behind one that failed is skipped: the store runs and the hook never did. -/
theorem hook_skipped_by_retry :
    let fault : Fault := .container (.other "cache is down")
    let run : List (Operation BeanKind BeanKind.Val) := [.onStartup ⟨"warm", .config, some fault⟩,
      .onStartup ⟨"listen", .config, none⟩, .start]
    Container.standard.IsNew ∧ (Container.standard.after run).start.result = .ok () ∧
      (Container.standard.after (run ++ [.start])).phase = .running ∧
      (startupHooks run).map StartupHook.name = ["warm", "listen"] ∧
      startedNames (Container.standard.events (run ++ [.start])) = ["warm"] ∧
      ¬ Container.standard.FullyStarted (run ++ [.start]) := by
  intro fault run
  have hran : startedNames (Container.standard.events (run ++ [.start])) = ["warm"] := rfl
  refine ⟨⟨rfl, rfl, rfl⟩, rfl, rfl, rfl, hran, fun h => ?_⟩
  have hall := h.ran
  rw [hran] at hall
  cases hall

end OneShot.BeanStore
