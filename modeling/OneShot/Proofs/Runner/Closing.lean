import OneShot.Proofs.Invocation.Course
import OneShot.Proofs.Runner.Making
import OneShot.Sample.Functions

/-! How often a runner closes its container, from its making to its drop: once if it owns the container,
never if it borrows it. A function is not called any more when its container is closed. -/

namespace OneShot

open BeanStore

/-- Two invocations that differ at most in the function that they call. -/
inductive Invocation.Twin : Invocation → Invocation → Prop
  | run (argv : List ByteArray) (sink : Sink) {b b' : DataType} (body : Body b) (body' : Body b') :
      Twin (.run argv sink body) (.run argv sink body')
  | stream (source : Source) (sink : Sink) (debug : Bool) {a b a' b' : DataType}
      (e : StreamFunction a b) (e' : StreamFunction a' b') :
      Twin (.executeStream source sink e debug) (.executeStream source sink e' debug)

theorem StreamFunction.input_of_closed {c : Container} (h : c.phase = .closed) (source : Source) :
    ∃ fault, ∀ (a b : DataType) (e : StreamFunction a b), e.input c source = .error fault := by
  cases ht : source.readText with
  | error fault => exact ⟨.io fault, fun a b e => by simp only [input, ht]⟩
  | ok text =>
    by_cases he : (dropLineEnd text).isEmpty = true
    · exact ⟨.noData, fun a b e => by simp only [input, ht, he, if_true]⟩
    · refine ⟨.beanNotFound BeanKind.functions.typeName, fun a b e => ?_⟩
      simp only [input, ht, if_neg he, get_of_closed h]
      rfl

/-- The function of an invocation is not called when the container is closed: any other would do as
well. -/
theorem Container.serve_twin_of_closed {c : Container} (h : c.phase = .closed) {q q' : Invocation}
    (ht : q.Twin q') : c.serve q' = c.serve q := by
  cases ht with
  | run argv sink body body' =>
    simp only [serve, invoke, context_of_no_conversions (find?_of_closed h .conversions)]
  | stream source sink debug e e' =>
    obtain ⟨fault, hf⟩ := StreamFunction.input_of_closed h source
    simp only [serve_executeStream, executeStream, stream, StreamFunction.run, hf]

namespace Runner

def next (r : Runner) : Step → Runner
  | .invoke _ => r
  | .close => r.close.runner

def after (r : Runner) (steps : List Step) : Runner :=
  steps.foldl next r

def closings (r : Runner) : List Step → List Closing
  | [] => []
  | .invoke _ :: steps => r.closings steps
  | .close :: steps => r.close :: r.close.runner.closings steps

/-- The hooks that run while a host takes its steps and then drops the runner. -/
def hooks (r : Runner) (steps : List Step) : List HookEvent :=
  (r.closings steps).flatMap Closing.events ++ (r.after steps).drop.2

/-- An owner when its container is closed. -/
def released (r : Runner) : Runner :=
  { r with container := r.container.close.container, closed := true }

theorem after_append (r : Runner) (before later : List Step) :
    r.after (before ++ later) = (r.after before).after later :=
  List.foldl_append

theorem closings_append (r : Runner) (before later : List Step) :
    r.closings (before ++ later) = r.closings before ++ (r.after before).closings later := by
  induction before generalizing r with
  | nil => rfl
  | cons step before ih =>
    cases step with
    | invoke q => exact ih r
    | close => exact congrArg (r.close :: ·) (ih r.close.runner)

variable {r : Runner} {steps : List Step}

theorem after_of_no_close (h : Step.close ∉ steps) : r.after steps = r := by
  induction steps with
  | nil => rfl
  | cons step steps ih =>
    cases step with
    | invoke q => exact ih (fun hm => h (List.mem_cons_of_mem _ hm))
    | close => exact absurd List.mem_cons_self h

theorem closings_of_no_close (h : Step.close ∉ steps) : r.closings steps = [] := by
  induction steps with
  | nil => rfl
  | cons step steps ih =>
    cases step with
    | invoke q => exact ih (fun hm => h (List.mem_cons_of_mem _ hm))
    | close => exact absurd List.mem_cons_self h

theorem close_of_closed (h : r.closed = true) : r.close = ⟨.ok (), r, []⟩ := by
  simp only [close, h, if_true]

theorem drop_of_closed (h : r.closed = true) : r.drop = (r.container, []) := by
  simp only [drop, close_of_closed h]

theorem after_of_closed (h : r.closed = true) (steps : List Step) : r.after steps = r := by
  induction steps with
  | nil => rfl
  | cons step steps ih =>
    cases step with
    | invoke q => exact ih
    | close =>
      rw [after, List.foldl_cons, next, close_of_closed h]
      exact ih

theorem closings_of_closed (h : r.closed = true) (steps : List Step) :
    ∀ x ∈ r.closings steps, x = ⟨.ok (), r, []⟩ := by
  induction steps with
  | nil => exact fun x hx => absurd hx List.not_mem_nil
  | cons step steps ih =>
    cases step with
    | invoke q => exact ih
    | close =>
      rw [closings, close_of_closed h]
      exact List.forall_mem_cons.mpr ⟨rfl, ih⟩

theorem close_of_owned (ho : r.ownership = .owned) (hc : r.closed = false) :
    r.close = ⟨r.container.close.result, r.released, r.container.close.events⟩ := by
  simp [close, ho, hc, released]

theorem container_of_mem_served_of_closed (h : r.closed = true) {s : Served}
    (hs : s ∈ r.served steps) : s.container = r.container := by
  induction steps with
  | nil => cases hs
  | cons step steps ih =>
    cases step with
    | invoke q =>
      rcases List.mem_cons.mp hs with rfl | hs
      · rfl
      · exact ih hs
    | close =>
      rw [served, close_of_closed h] at hs
      exact ih hs

/-- The life of a runner `r` that owns its container, which a host has configured as `container`. -/
structure ClosedOnce (container : Container) (r : Runner) (steps : List Step) : Prop where
  running : r.container.phase = .running
  untouched : Step.close ∉ steps → r.after steps = r
  closed_iff : (r.after steps).container.phase = .closed ↔ Step.close ∈ steps
  /-- The first close is that of the container. The later ones and the drop come to nothing. -/
  closed_first : Step.close ∈ steps →
    (∃ rest, r.closings steps =
        ⟨r.container.close.result, r.released, r.container.close.events⟩ :: rest ∧
      ∀ x ∈ rest, x = ⟨.ok (), r.released, []⟩) ∧
    (r.after steps).drop = (r.container.close.container, [])
  /-- Without a close it is the drop that closes the container. -/
  dropped : Step.close ∉ steps → r.closings steps = [] ∧
    (r.after steps).drop = (r.container.close.container, r.container.close.events)
  ended : (r.after steps).drop.1.phase = .closed
  /-- Each shutdown hook runs once, the newest first. -/
  hooks : r.hooks steps = container.shutdown.reverse.map fun hook => .stopped hook.name
  /-- After a close the function of an invocation is not called. -/
  uncalled : Step.close ∈ steps → ∀ later, ∀ s ∈ (r.after steps).served later,
    ∀ q, s.invocation.Twin q → s.container.serve q = s.report

/-- The life of a runner `r` that borrows `container`. -/
structure NeverClosed (container : Container) (r : Runner) (steps : List Step) : Prop where
  unchanged : (r.after steps).container = container
  closings : ∀ x ∈ r.closings steps, x.result = .ok () ∧ x.events = []
  dropped : (r.after steps).drop = (container, [])
  hooks : r.hooks steps = []
  /-- An invocation is served alike before and after a close. -/
  served : ∀ s ∈ r.served steps, s.report = container.serve s.invocation

section Owned

variable (ho : r.ownership = .owned) (hc : r.closed = false)
include ho hc

theorem after_of_close (h : Step.close ∈ steps) : r.after steps = r.released := by
  -- Nothing happens to the runner before the first close, nor after it.
  obtain ⟨before, later, rfl, hb⟩ := List.eq_append_cons_of_mem h
  rw [after_append, after_of_no_close hb, after, List.foldl_cons, next, close_of_owned ho hc]
  exact after_of_closed rfl later

theorem closings_of_close (h : Step.close ∈ steps) :
    ∃ rest, r.closings steps =
        ⟨r.container.close.result, r.released, r.container.close.events⟩ :: rest ∧
      ∀ x ∈ rest, x = ⟨.ok (), r.released, []⟩ := by
  obtain ⟨before, later, rfl, hb⟩ := List.eq_append_cons_of_mem h
  refine ⟨r.released.closings later, ?_, closings_of_closed rfl later⟩
  rw [closings_append, closings_of_no_close hb, after_of_no_close hb, closings,
    close_of_owned ho hc, List.nil_append]

theorem drop_of_no_close (h : Step.close ∉ steps) :
    (r.after steps).drop = (r.container.close.container, r.container.close.events) := by
  simp only [after_of_no_close h, drop, close_of_owned ho hc]
  rfl

theorem drop_of_close (h : Step.close ∈ steps) :
    (r.after steps).drop = (r.container.close.container, []) := by
  rw [after_of_close ho hc h, drop_of_closed rfl]
  rfl

theorem hooks_of_owned (steps : List Step) : r.hooks steps = r.container.close.events := by
  by_cases h : Step.close ∈ steps
  · obtain ⟨rest, hr, hrest⟩ := closings_of_close ho hc h
    have hnil : rest.flatMap Closing.events = [] := by
      rw [List.flatMap_eq_nil_iff]
      exact fun x hx => by rw [hrest x hx]
    rw [hooks, hr, drop_of_close ho hc h, List.flatMap_cons, hnil, List.append_nil, List.append_nil]
  · rw [hooks, closings_of_no_close h, drop_of_no_close ho hc h]
    rfl

theorem uncalled_of_owned (hp : r.container.phase ≠ .closed) (h : Step.close ∈ steps)
    {later : List Step} {s : Served} (hs : s ∈ (r.after steps).served later) {q : Invocation}
    (hq : s.invocation.Twin q) : s.container.serve q = s.report := by
  rw [after_of_close ho hc h] at hs
  have hclosed : s.container.phase = .closed := by
    rw [container_of_mem_served_of_closed rfl hs, released, close_of_open hp]
  rw [report_of_mem_served hs]
  exact Container.serve_twin_of_closed hclosed hq

end Owned

theorem closedOnce_of_owning {container : Container} {target : Target}
    (h : (owning container target).result = .ok r) (steps : List Step) :
    stoppedNames (owning container target).events = [] ∧ ClosedOnce container r steps := by
  have hm := owning_course container target
  generalize owning container target = making at hm h
  cases hm with
  | unstarted => cases h
  | uninjected => cases h
  | made hs =>
    cases h
    have hr := (start_of_ok hs).1
    have hp : container.start.container.phase ≠ .closed := by simp [hr]
    have hclosed : container.start.container.close.container.phase = .closed := by
      rw [close_of_open hp]
    refine ⟨stoppedNames_start container, by rw [hr], fun hno => after_of_no_close hno, ?closed_iff,
      fun hm => ⟨closings_of_close rfl rfl hm, drop_of_close rfl rfl hm⟩,
      fun hno => ⟨closings_of_no_close hno, drop_of_no_close rfl rfl hno⟩, ?ended, ?hooks,
      fun hm _ _ hs _ hq => uncalled_of_owned rfl rfl hp hm hs hq⟩
    case closed_iff =>
      by_cases hm : Step.close ∈ steps
      · rw [after_of_close rfl rfl hm]
        exact iff_of_true hclosed hm
      · rw [after_of_no_close hm]
        exact iff_of_false hp hm
    case ended =>
      by_cases hm : Step.close ∈ steps
      · rw [drop_of_close rfl rfl hm]
        exact hclosed
      · rw [drop_of_no_close rfl rfl hm]
        exact hclosed
    case hooks => rw [hooks_of_owned rfl rfl, close_of_open hp, shutdown_start]

section Borrowed

variable (h : r.ownership = .borrowed)
include h

theorem close_of_borrowed : r.close = ⟨.ok (), { r with closed := true }, []⟩ := by
  cases hc : r.closed with
  | true =>
    rw [close_of_closed hc]
    obtain ⟨ownership, container, target, closed⟩ := r
    simp only at hc
    rw [hc]
  | false => simp [close, h, hc]

theorem next_of_borrowed (step : Step) :
    (r.next step).ownership = .borrowed ∧ (r.next step).container = r.container := by
  cases step with
  | invoke q => exact ⟨h, rfl⟩
  | close => simp [next, close_of_borrowed h, h]

theorem after_of_borrowed (steps : List Step) :
    (r.after steps).ownership = .borrowed ∧ (r.after steps).container = r.container := by
  induction steps generalizing r with
  | nil => exact ⟨h, rfl⟩
  | cons step steps ih =>
    obtain ⟨hn, hc⟩ := next_of_borrowed h step
    rw [← hc]
    exact ih hn

theorem closings_of_borrowed (steps : List Step) :
    ∀ x ∈ r.closings steps, x.result = .ok () ∧ x.events = [] := by
  induction steps generalizing r with
  | nil => exact fun x hx => absurd hx List.not_mem_nil
  | cons step steps ih =>
    have hn := (next_of_borrowed h step).1
    cases step with
    | invoke q => exact ih h
    | close =>
      rw [closings]
      refine List.forall_mem_cons.mpr ⟨?_, ih hn⟩
      rw [close_of_borrowed h]
      exact ⟨rfl, rfl⟩

theorem drop_of_borrowed : r.drop = (r.container, []) := by
  simp only [drop, close_of_borrowed h]

theorem container_of_mem_served_of_borrowed {s : Served} (hs : s ∈ r.served steps) :
    s.container = r.container := by
  induction steps generalizing r with
  | nil => cases hs
  | cons step steps ih =>
    cases step with
    | invoke q =>
      rcases List.mem_cons.mp hs with rfl | hs
      · rfl
      · exact ih h hs
    | close =>
      obtain ⟨hn, hc⟩ := next_of_borrowed h .close
      exact (ih hn hs).trans hc

theorem neverClosed_of_borrowed (steps : List Step) : NeverClosed r.container r steps := by
  obtain ⟨ha, hc⟩ := after_of_borrowed h steps
  have hd : (r.after steps).drop = (r.container, []) := by rw [drop_of_borrowed ha, hc]
  refine ⟨hc, closings_of_borrowed h steps, hd, ?hooks, ?served⟩
  case hooks =>
    rw [hooks, hd, List.append_nil, List.flatMap_eq_nil_iff]
    exact fun x hx => (closings_of_borrowed h steps x hx).2
  case served =>
    intro s hs
    rw [report_of_mem_served hs, container_of_mem_served_of_borrowed h hs]

end Borrowed

theorem borrowing_of_ok {container : Container} {target : Target} {inject : Bool}
    (h : (borrowing container target inject).result = .ok r) :
    r.ownership = .borrowed ∧ r.container = container ∧
      (borrowing container target inject).events = [] := by
  cases inject with
  | false =>
    cases h
    exact ⟨rfl, rfl, rfl⟩
  | true =>
    let made : Runner := ⟨.borrowed, container, target, false⟩
    change made.injected.result = .ok r at h
    change _ ∧ _ ∧ made.injected.events = []
    cases hi : (made.container.inject made.target).1 with
    | error fault =>
      rw [injected_of_error hi] at h
      cases h
    | ok =>
      rw [injected_of_ok hi] at h ⊢
      cases h
      exact ⟨rfl, rfl, rfl⟩

/-- A runner closes its container once if it owns it, and never if it borrows it, whatever steps a host
takes before it drops the runner. -/
theorem closed_once_or_never :
    (∀ (container : Container) (target : Target) (r : Runner) (steps : List Step),
      (owning container target).result = .ok r →
        stoppedNames (owning container target).events = [] ∧ ClosedOnce container r steps) ∧
    (∀ (container : Container) (target : Target) (inject : Bool) (r : Runner) (steps : List Step),
      (borrowing container target inject).result = .ok r →
        (borrowing container target inject).events = [] ∧ NeverClosed container r steps) := by
  refine ⟨fun container target r steps h => closedOnce_of_owning h steps,
    fun container target inject r steps h => ?_⟩
  obtain ⟨hb, rfl, he⟩ := borrowing_of_ok h
  exact ⟨he, neverClosed_of_borrowed hb steps⟩

/-- A host that closes twice although its shutdown hook fails, with an invocation between. -/
theorem closed_once_or_never_twice :
    let c := Container.standard.onShutdown ⟨"flush", some .noData⟩
    let steps := [.close, .invoke (.run [] (.new .accepting) (Sample.get .string)), .close]
    let owner : Runner := ⟨.owned, { c with phase := .running }, ⟨[], none, 1, []⟩, false⟩
    let borrower : Runner := ⟨.borrowed, c, ⟨[], none, 1, []⟩, false⟩
    (owning c (.new [])).result = .ok owner ∧ ClosedOnce c owner steps ∧
      (borrowing c (.new []) true).result = .ok borrower ∧ NeverClosed c borrower steps :=
  ⟨rfl, (closed_once_or_never.1 _ (.new []) _ _ rfl).2, rfl,
    (closed_once_or_never.2 _ (.new []) true _ _ rfl).2⟩

end Runner

end OneShot
