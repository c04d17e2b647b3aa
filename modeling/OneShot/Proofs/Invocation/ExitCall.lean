import OneShot.Proofs.Invocation.Course
import OneShot.Sample.Functions

/-! The exit call of an invocation. Whatever goes wrong first decides it, and there is one call only,
unless the sink panics while a result is written. -/

namespace OneShot

/-- The first thing that goes wrong with an invocation, and whether its diagnostics are full. -/
inductive FirstFault (c : Container) : Invocation → Fault → Bool → Prop
  | context {argv : List ByteArray} {sink : Sink} {b : DataType} {body : Body b} {fault : Fault}
      (h : ContextFault c argv fault) : FirstFault c (.run argv sink body) fault false
  | failed {argv : List ByteArray} {sink : Sink} {b : DataType} {body : Body b}
      {context : Context} {fault : Fault} (h : c.context argv = .ok context)
      (hb : body context = .failed fault) :
      FirstFault c (.run argv sink body) fault context.debug
  | panicked {argv : List ByteArray} {sink : Sink} {b : DataType} {body : Body b}
      {context : Context} {panic : Panic} (h : c.context argv = .ok context)
      (hb : body context = .panicked panic) :
      FirstFault c (.run argv sink body) (.panicked panic.message) context.debug
  | result {argv : List ByteArray} {sink after : Sink} {b : DataType} {body : Body b}
      {context : Context} {v : b.Val} {fault : Fault} (h : c.context argv = .ok context)
      (hb : body context = .done (some v))
      (he : c.encodeResult c.functionName b v sink = (.failed fault, after)) :
      FirstFault c (.run argv sink body) fault context.debug
  | stream {source : Source} {sink after : Sink} {e : StreamExecutor} {debug : Bool}
      {fault : Fault} (h : e c source sink = (.failed fault, after)) :
      FirstFault c (.stream source sink e debug) fault debug
  | streamPanicked {source : Source} {sink after : Sink} {e : StreamExecutor} {debug : Bool}
      {panic : Panic} (h : e c source sink = (.panicked panic, after)) :
      FirstFault c (.stream source sink e debug) (.panicked panic.message) debug

/-- The sink panics while the result of an invocation by argument is written. -/
inductive WritePanic (c : Container) : Invocation → Panic → Prop
  | intro {argv : List ByteArray} {sink after : Sink} {b : DataType} {body : Body b}
      {context : Context} {v : b.Val} {panic : Panic} (h : c.context argv = .ok context)
      (hb : body context = .done (some v))
      (he : c.encodeResult c.functionName b v sink = (.panicked panic, after)) :
      WritePanic c (.run argv sink body) panic

/-- What is due of an invocation: one call on the handler of its container, for what went wrong first,
and the exit that answers this call. -/
structure Settled (c : Container) (q : Invocation) (report : Report) : Prop where
  handler : report.handler = c.exitHandler
  answered : ∃ call, report.calls = [call] ∧
    report.ending = .exited call (c.exitHandler.answer call)
  noData : ∀ debug, FirstFault c q .noData debug → report.calls = [.noData]
  error : ∀ fault debug, FirstFault c q fault debug → fault ≠ .noData →
    report.calls = [.error fault debug]
  success : (∀ fault debug, ¬ FirstFault c q fault debug) → report.calls = [.success]
  /-- Without a context the body does not run: any other would do as well. -/
  unrun : ∀ (argv : List ByteArray) (sink : Sink) (b : DataType) (body : Body b) (fault : Fault),
    q = .run argv sink body → ContextFault c argv fault →
      ∀ (b' : DataType) (body' : Body b'), c.serve (.run argv sink body') = report

theorem ExitCall.ofFault_of_ne {fault : Fault} (h : fault ≠ .noData) (debug : Bool) :
    ofFault fault debug = error fault debug := by
  cases fault with
  | noData => exact absurd rfl h
  | _ => rfl

namespace Container

theorem serve_of_firstFault {c : Container} {q : Invocation} {fault : Fault} {debug : Bool}
    (h : FirstFault c q fault debug) :
    ∃ sink alarms, c.serve q = c.finish (.ofFault fault debug) sink alarms := by
  cases h with
  | context h =>
    exact ⟨_, _, by simp only [serve, invoke, context_eq_error_iff.mpr h]; rfl⟩
  | failed h hb => exact ⟨_, _, by simp only [serve, invoke, h, hb, guarded]; rfl⟩
  | panicked h hb => exact ⟨_, _, by simp only [serve, invoke, h, hb, guarded]; rfl⟩
  | result h hb he => exact ⟨_, _, by simp only [serve, invoke, h, hb, guarded, he]; rfl⟩
  | stream h => exact ⟨_, _, by simp only [serve, stream, h, guarded]; rfl⟩
  | streamPanicked h => exact ⟨_, _, by simp only [serve, stream, h, guarded]; rfl⟩

theorem serve_of_writePanic {c : Container} {q : Invocation} {panic : Panic}
    (h : WritePanic c q panic) :
    (c.serve q).calls = [] ∧ (c.serve q).ending = .panicked panic := by
  cases h with
  | intro h hb he => simp only [serve, invoke, h, hb, guarded, he, and_self]

theorem serve_of_no_fault {c : Container} {q : Invocation}
    (h : ∀ fault debug, ¬ FirstFault c q fault debug) (hw : ∀ panic, ¬ WritePanic c q panic) :
    ∃ sink alarms, c.serve q = c.finish .success sink alarms := by
  have hc := c.serve_course q
  generalize c.serve q = report at hc
  cases hc with
  | unopened hx => exact absurd (.context (context_eq_error_iff.mp hx)) (h _ _)
  | failed hx hb => exact absurd (.failed hx hb) (h _ _)
  | panicked hx hb => exact absurd (.panicked hx hb) (h _ _)
  | absent hx hb => exact ⟨_, _, rfl⟩
  | written hx hb he => exact ⟨_, _, rfl⟩
  | unwritten hx hb he => exact absurd (.result hx hb he) (h _ _)
  | writePanicked hx hb he => exact absurd (.intro hx hb he) (hw _)
  | streamed hx => exact ⟨_, _, rfl⟩
  | streamFailed hx => exact absurd (.stream hx) (h _ _)
  | streamPanicked hx => exact absurd (.streamPanicked hx) (h _ _)

theorem serve_settled {c : Container} {q : Invocation} (hw : ∀ panic, ¬ WritePanic c q panic) :
    Settled c q (c.serve q) := by
  have hcall : ∃ call sink alarms, c.serve q = c.finish call sink alarms := by
    by_cases hf : ∃ fault debug, FirstFault c q fault debug
    · obtain ⟨fault, debug, hf⟩ := hf
      exact ⟨_, serve_of_firstFault hf⟩
    · simp only [not_exists] at hf
      exact ⟨_, serve_of_no_fault hf hw⟩
  obtain ⟨call, sink, alarms, he⟩ := hcall
  refine ⟨by rw [he]; rfl, ⟨call, by rw [he]; exact ⟨rfl, rfl⟩⟩, ?noData, ?error, ?success,
    ?unrun⟩
  case noData =>
    intro debug hf
    obtain ⟨sink, alarms, he⟩ := serve_of_firstFault hf
    rw [he]
    rfl
  case error =>
    intro fault debug hf hne
    obtain ⟨sink, alarms, he⟩ := serve_of_firstFault hf
    rw [he, ExitCall.ofFault_of_ne hne]
    rfl
  case success =>
    intro hf
    obtain ⟨sink, alarms, he⟩ := serve_of_no_fault hf hw
    rw [he]
    rfl
  case unrun =>
    rintro argv sink b body fault rfl hf b' body'
    simp only [serve, invoke, context_eq_error_iff.mpr hf]

theorem settled_iff {c : Container} {q : Invocation} :
    Settled c q (c.serve q) ↔ ∀ panic, ¬ WritePanic c q panic := by
  refine ⟨fun h panic hw => ?_, serve_settled⟩
  obtain ⟨call, hc, -⟩ := h.answered
  rw [(serve_of_writePanic hw).1] at hc
  cases hc

end Container

namespace Runner

/-- In whatever order a host makes invocations and closes its runner, each invocation makes one call on
the exit handler, and its exit is the answer to this call, just when its sink does not panic while a
result is written for arguments. Such a panic ends the invocation without a call. -/
theorem one_call_each (r : Runner) (steps : List Step) :
    (r.served steps).map Served.invocation = invocations steps ∧
    (∀ s ∈ r.served steps,
      (Settled s.container s.invocation s.report ↔
        ∀ panic, ¬ WritePanic s.container s.invocation panic) ∧
      (∀ panic, WritePanic s.container s.invocation panic →
        s.report.calls = [] ∧ s.report.ending = .panicked panic)) ∧
    ((∀ s ∈ r.served steps, ∀ panic, ¬ WritePanic s.container s.invocation panic) →
      ((r.served steps).flatMap fun s => s.report.calls).length = (invocations steps).length) := by
  have hs : ∀ s ∈ r.served steps, Settled s.container s.invocation s.report ↔
      ∀ panic, ¬ WritePanic s.container s.invocation panic := by
    intro s hm
    rw [report_of_mem_served hm]
    exact Container.settled_iff
  refine ⟨map_invocation_served r steps, fun s hm => ⟨hs s hm, ?_⟩, fun hw => ?_⟩
  · intro panic hp
    rw [report_of_mem_served hm]
    exact Container.serve_of_writePanic hp
  · have hone : ∀ s ∈ r.served steps, s.report.calls.length = 1 := by
      intro s hm
      obtain ⟨call, hc, _⟩ := ((hs s hm).mpr (hw s hm)).answered
      rw [hc]
      rfl
    rw [← map_invocation_served r steps, List.length_map, List.length_flatMap,
      List.map_congr_left hone]
    rw [List.map_const', List.sum_replicate_nat, Nat.mul_one]

theorem one_call_each_no_data :
    let q : Invocation := .run [] (.new .accepting) (Sample.get (.int .i64))
    let s : Served := ⟨.standard, q, Container.standard.serve q⟩
    s ∈ served ⟨.borrowed, .standard, .new [], false⟩ [.close, .invoke q] ∧
      (∀ panic, ¬ WritePanic s.container s.invocation panic) ∧
      Settled s.container s.invocation s.report := by
  intro q s
  have hm : s ∈ served ⟨.borrowed, .standard, .new [], false⟩ [.close, .invoke q] :=
    List.mem_singleton.mpr rfl
  have hw : ∀ panic, ¬ WritePanic s.container s.invocation panic := by
    rintro panic ⟨h, hb, _⟩
    cases h
    cases hb
  exact ⟨hm, hw, ((one_call_each _ _).2.1 s hm).1.mpr hw⟩

/-- A body gives a number, and the sink panics when this is written: nobody calls the handler. The number
that a stream function gives is written under guard, and the panic is reported. -/
theorem no_call_when_write_panics :
    let one : IntKind.i64.Num := ⟨1, by decide⟩
    let sink := Sink.new .panicking
    let q : Invocation := .run [] sink (Sample.give (b := .int .i64) one)
    let q' : Invocation :=
      .executeStream ⟨.whole, "0".toUTF8⟩ sink ⟨"function", Sample.increment⟩ false
    let panic : Panic := .text "sink panicked"
    let c := Container.standard
    served ⟨.borrowed, c, .new [], false⟩ [.invoke q, .invoke q'] =
        [⟨c, q, c.serve q⟩, ⟨c, q', c.serve q'⟩] ∧
      (c.serve q).calls = [] ∧ (c.serve q).ending = .panicked panic ∧
      ¬ Settled c q (c.serve q) ∧
      (c.serve q').calls = [.error (.panicked panic.message) false] := by
  refine ⟨rfl, rfl, rfl, fun h => ?_, rfl⟩
  obtain ⟨call, hc, -⟩ := h.answered
  cases hc

end Runner

end OneShot
