import OneShot.Proofs.BeanStore.Startup
import OneShot.Runner

/-! What becomes of the hooks of a container when a runner is made that owns it. A runner whose injection
fails releases its container. A container that does not start is not released: its shutdown hooks never
run. -/

namespace OneShot

open BeanStore

inductive Setting
  | bean (k : BeanKind) (v : k.Val)
  | onStartup (hook : StartupHook BeanKind)
  | onShutdown (hook : ShutdownHook)

namespace Setting

def operation : Setting → Operation BeanKind BeanKind.Val
  | bean k v => .register k v
  | onStartup hook => .onStartup hook
  | onShutdown hook => .onShutdown hook

def startup (settings : List Setting) : List (StartupHook BeanKind) :=
  startupHooks (settings.map operation)

def shutdown (settings : List Setting) : List ShutdownHook :=
  shutdownHooks (settings.map operation)

end Setting

namespace Container

/-- The standard container with settings of the host. -/
def configured (settings : List Setting) : Container :=
  standard.after (settings.map Setting.operation)

theorem standard_isNew : standard.IsNew := ⟨rfl, rfl, rfl⟩

theorem phase_configured (settings : List Setting) : (configured settings).phase = .created := by
  induction settings using List.reverseRecOn with
  | nil => rfl
  | append_singleton settings setting ih =>
    rw [configured, List.map_append, List.map_singleton, after_concat]
    cases setting <;> exact ih

theorem startup_configured (settings : List Setting) :
    (configured settings).startup = Setting.startup settings := by
  have hs : Operation.start ∉ settings.map Setting.operation := by
    rw [List.mem_map]
    rintro ⟨setting, _, hs⟩
    cases setting <;> cases hs
  rw [configured, startup_after standard_isNew (phase_configured settings),
    pendingHooks_of_no_start hs, Setting.startup]

theorem shutdown_configured (settings : List Setting) :
    (configured settings).shutdown = Setting.shutdown settings := by
  have hr := reached_after standard_isNew (settings.map Setting.operation)
  have hc : (configured settings).phase ≠ .closed := by simp [phase_configured]
  exact hr.shutdown hc

end Container

theorem BeanStore.injections_inject {K : Type} {Val : K → Type} [KindName K] {c : BeanStore K Val}
    (h : c.phase ≠ .closed) (target : Recipient K Val) :
    (c.inject target).2.injections = target.injections + 1 := by
  simp [inject, isClosed, h]

namespace Runner

variable {c : Container} {target : Target} {fault : Fault}

theorem injected_of_ok {r : Runner} (h : (r.container.inject r.target).1 = .ok ()) :
    r.injected = ⟨.ok { r with target := (r.container.inject r.target).2 },
      (r.container.inject r.target).2, []⟩ := by
  rcases he : r.container.inject r.target with ⟨result, target⟩
  rw [he] at h
  obtain rfl : result = .ok () := h
  simp only [injected, he]

theorem injected_of_error {r : Runner} (h : (r.container.inject r.target).1 = .error fault) :
    r.injected = ⟨.error fault, (r.container.inject r.target).2, r.drop.2⟩ := by
  rcases he : r.container.inject r.target with ⟨result, target⟩
  rw [he] at h
  obtain rfl : result = .error fault := h
  simp only [injected, he]

theorem drop_owned (c : Container) (target : Target) :
    (Runner.mk .owned c target false).drop = (c.close.container, c.close.events) := rfl

theorem owning_of_start_error (h : c.start.result = .error fault) :
    owning c target = ⟨.error fault, target, c.start.events⟩ := by
  simp only [owning, h]

theorem owning_of_inject_error (h : c.start.result = .ok ())
    (hi : (c.start.container.inject target).1 = .error fault) :
    owning c target = ⟨.error fault, (c.start.container.inject target).2,
      c.start.events ++ c.start.container.close.events⟩ := by
  have hr : (Runner.mk .owned c.start.container target false).injected = _ := injected_of_error hi
  simp only [owning, h, hr, drop_owned]

theorem owning_of_ok (h : c.start.result = .ok ())
    (hi : (c.start.container.inject target).1 = .ok ()) :
    owning c target = ⟨.ok ⟨.owned, c.start.container, (c.start.container.inject target).2, false⟩,
      (c.start.container.inject target).2, c.start.events⟩ := by
  have hr : (Runner.mk .owned c.start.container target false).injected = _ := injected_of_ok hi
  simp only [owning, h, hr, List.append_nil]

/-- The ways of making a runner that owns its container. -/
inductive OwningCourse (c : Container) (target : Target) : Making → Prop
  | unstarted {fault : Fault} (h : c.start.result = .error fault) :
      OwningCourse c target ⟨.error fault, target, c.start.events⟩
  | uninjected {fault : Fault} (h : c.start.result = .ok ())
      (hi : (c.start.container.inject target).1 = .error fault) :
      OwningCourse c target ⟨.error fault, (c.start.container.inject target).2,
        c.start.events ++ c.start.container.close.events⟩
  | made (h : c.start.result = .ok ()) (hi : (c.start.container.inject target).1 = .ok ()) :
      OwningCourse c target ⟨.ok ⟨.owned, c.start.container, (c.start.container.inject target).2,
        false⟩, (c.start.container.inject target).2, c.start.events⟩

theorem owning_course (c : Container) (target : Target) :
    OwningCourse c target (owning c target) := by
  cases h : c.start.result with
  | error fault =>
    rw [owning_of_start_error h]
    exact .unstarted h
  | ok =>
    cases hi : (c.start.container.inject target).1 with
    | error fault =>
      rw [owning_of_inject_error h hi]
      exact .uninjected h hi
    | ok =>
      rw [owning_of_ok h hi]
      exact .made h hi

/-- Which hooks of a created container have run when the making of its owner is over. -/
structure HooksOfMaking (c : Container) (target : Target) (making : Making) : Prop where
  /-- A runner that is made has a container that runs, and a target that was injected there once. -/
  made : ∀ r, making.result = .ok r →
    making.events = c.startup.map c.started ∧ (∀ hook ∈ c.startup, hook.fault? = none) ∧
    r.container.phase = .running ∧ r.container.inject target = (.ok (), r.target) ∧
    r.target.injections = target.injections + 1
  /-- A making that fails after the start releases the container: the newest hook stops first. -/
  uninjected : ∀ fault, making.result = .error fault → (∀ hook ∈ c.startup, hook.fault? = none) →
    making.events = c.startup.map c.started ++
      c.shutdown.reverse.map fun hook => .stopped hook.name
  unstarted : ∀ hook ∈ c.startup, hook.fault? ≠ none →
    (∃ fault, making.result = .error fault) ∧ making.target = target ∧
      stoppedNames making.events = []
  released_iff : ∀ fault, making.result = .error fault →
    (stoppedNames making.events = (c.shutdown.map ShutdownHook.name).reverse ↔
      (∀ hook ∈ c.startup, hook.fault? = none) ∨ c.shutdown = [])

theorem stoppedNames_start (c : Container) : stoppedNames c.start.events = [] := by
  have hne : (Operation.start : Operation BeanKind BeanKind.Val) ≠ .close := nofun
  exact stoppedNames_hooksRun hne

theorem not_forall_of_start_error (hc : c.phase = .created) (h : c.start.result = .error fault) :
    ¬ ∀ hook ∈ c.startup, hook.fault? = none := by
  intro hf
  rw [start_eq_ok_iff.mpr ⟨hc, hf⟩] at h
  cases h

theorem hooksOfMaking_of_created (hc : c.phase = .created) (target : Target) :
    HooksOfMaking c target (owning c target) := by
  have hm := owning_course c target
  generalize owning c target = making at hm
  cases hm with
  | unstarted h =>
    have hno := not_forall_of_start_error hc h
    refine ⟨?ok, fun _ _ hf => absurd hf hno,
      fun _ _ _ => ⟨⟨_, rfl⟩, rfl, stoppedNames_start c⟩, fun _ _ => ?stops⟩
    case ok =>
      intro r hr
      cases hr
    case stops =>
      rw [or_iff_right hno, stoppedNames_start, eq_comm, List.reverse_eq_nil_iff,
        List.map_eq_nil_iff]
  | uninjected h hi =>
    obtain ⟨hs, he⟩ := start_of_ok h
    have hf := (start_eq_ok_iff.mp h).2
    have ho : c.start.container.phase ≠ .closed := by simp [hs]
    have hstop : stoppedNames (c.start.events ++ c.start.container.close.events) =
        (c.shutdown.map ShutdownHook.name).reverse := by
      rw [stoppedNames_append, stoppedNames_start, stoppedNames_close ho, shutdown_start,
        List.nil_append]
    refine ⟨?ok, fun _ _ _ => ?error, fun hook hm hne => absurd (hf hook hm) hne,
      fun _ _ => iff_of_true hstop (.inl hf)⟩
    case ok =>
      intro r hr
      cases hr
    case error => rw [he, close_of_open ho, shutdown_start]
  | made h hi =>
    obtain ⟨hs, he⟩ := start_of_ok h
    have hf := (start_eq_ok_iff.mp h).2
    refine ⟨?ok, ?error, fun hook hm hne => absurd (hf hook hm) hne, ?stops⟩
    case ok =>
      intro r hr
      cases hr
      exact ⟨he, hf, by rw [hs], Prod.ext hi rfl, injections_inject (by simp [hs]) target⟩
    case error =>
      intro fault hr
      cases hr
    case stops =>
      intro fault hr
      cases hr

/-- Whether the hooks of a host have run when the making of a runner on its settings is over. -/
theorem hooks_of_owning (settings : List Setting) (target : Target) :
    let c := Container.configured settings
    c.startup = Setting.startup settings ∧ c.shutdown = Setting.shutdown settings ∧
      HooksOfMaking c target (owning c target) :=
  ⟨Container.startup_configured settings, Container.shutdown_configured settings,
    hooksOfMaking_of_created (Container.phase_configured settings) target⟩

/-- A container that does not start is given up with a shutdown hook that has not run. -/
theorem unreleased_when_start_fails :
    let fault : Fault := .container (.other "cache is down")
    let settings : List Setting :=
      [.onStartup ⟨"warm", .config, some fault⟩, .onShutdown ⟨"release", none⟩]
    let making := owning (Container.configured settings) (.new [])
    making.result = .error fault ∧
      (Setting.shutdown settings).map ShutdownHook.name = ["release"] ∧
      stoppedNames making.events = [] ∧
      stoppedNames making.events ≠ ((Setting.shutdown settings).map ShutdownHook.name).reverse :=
  ⟨rfl, rfl, rfl, nofun⟩

end Runner

end OneShot
