import OneShot.Proofs.Invocation.ExitCall
import OneShot.Proofs.Sink

/-! What an invocation leaves in a sink that takes every write: all of its encoded result, or nothing. -/

namespace OneShot

def Container.Gives (c : Container) (argv : List ByteArray) {b : DataType} (body : Body b)
    (v : b.Val) : Prop :=
  ∃ context, c.context argv = .ok context ∧ body context = .done (some v)

def Executor.Gives {a b : DataType} (e : Executor a b) (c : Container) (argv : List ByteArray)
    (v : b.Val) : Prop :=
  ∃ context input, c.context argv = .ok context ∧ context.get a = .ok input ∧
    e context input = .done v

def StreamFunction.Gives {a b : DataType} (e : StreamFunction a b) (c : Container)
    (source : Source) (v : b.Val) : Prop :=
  ∃ input, e.input c source = .ok input ∧ e.function input = .done v

/-- What an invocation leaves in its sink, for the results that it may come to: the encoded result if it
ends in success, else nothing. Only a sink that refuses the flush has the bytes and an error. -/
structure AllOrNothing (c : Container) (name : String) {b : DataType} (result : b.Val → Prop)
    (sink : Sink) (report : Report) : Prop where
  all : report.calls = [.success] → ∀ v, result v →
    ∃ bytes, c.encodeValue name b v = .ok bytes ∧ report.sink.bytes = sink.bytes ++ bytes
  nothing : ¬ (report.calls = [.success] ∧ ∃ v, result v) → sink.kind ≠ .failingFlush →
    report.sink = sink
  delivered : ∀ v bytes, result v → c.encodeValue name b v = .ok bytes →
    sink.kind ≠ .failingFlush → report.calls = [.success]
  unflushed : ∀ v bytes, result v → c.encodeValue name b v = .ok bytes →
    sink.kind = .failingFlush → report.sink.bytes = sink.bytes ++ bytes ∧
      ∃ debug, report.calls = [.error (.io Sink.flushFault) debug]
  unencoded : (∀ v bytes, result v → c.encodeValue name b v ≠ .ok bytes) → report.sink = sink

/-- The ways of an encoded result into a sink that takes every write. -/
inductive Delivery (c : Container) (name : String) (t : DataType) (v : t.Val) (sink : Sink) :
    Outcome Unit × Sink → Prop
  | refused {fault : Fault} (he : c.encodeValue name t v = .error fault) :
      Delivery c name t v sink (.failed fault, sink)
  | taken {bytes : ByteArray} {after : Sink} (he : c.encodeValue name t v = .ok bytes)
      (hb : after.bytes = sink.bytes ++ bytes) (hk : sink.kind ≠ .failingFlush) :
      Delivery c name t v sink (.done (), after)
  | unflushed {bytes : ByteArray} {after : Sink} (he : c.encodeValue name t v = .ok bytes)
      (hb : after.bytes = sink.bytes ++ bytes) (hk : sink.kind = .failingFlush) :
      Delivery c name t v sink (.failed (.io Sink.flushFault), after)

def Outcome.call (debug : Bool) : Outcome Unit → ExitCall
  | .done () => .success
  | .failed fault => .ofFault fault debug
  | .panicked panic => .ofFault (.panicked panic.message) debug

theorem ExitCall.ofFault_ne_success (fault : Fault) (debug : Bool) :
    ofFault fault debug ≠ success := by
  cases fault <;> exact nofun

variable {c : Container} {name : String} {b : DataType} {result : b.Val → Prop} {sink : Sink}
  {report : Report}

theorem AllOrNothing.of_no_result (h : ∀ v, ¬ result v) (hs : report.sink = sink) :
    AllOrNothing c name result sink report where
  all _ v hv := absurd hv (h v)
  nothing _ _ := hs
  delivered v _ hv := absurd hv (h v)
  unflushed v _ hv := absurd hv (h v)
  unencoded _ := hs

theorem AllOrNothing.of_delivery {v : b.Val} {outcome : Outcome Unit} {after : Sink} {debug : Bool}
    (hv : result v) (hu : ∀ w, result w → w = v)
    (hd : Delivery c name b v sink (outcome, after)) (hs : report.sink = after)
    (hc : report.calls = [outcome.call debug]) : AllOrNothing c name result sink report := by
  have hne : ∀ fault, outcome = .failed fault → report.calls ≠ [.success] := by
    rintro fault rfl he
    rw [hc] at he
    exact ExitCall.ofFault_ne_success fault debug (List.cons.inj he).1
  cases hd with
  | refused he =>
    have hno : ∀ w bytes, result w → c.encodeValue name b w ≠ .ok bytes := by
      intro w bytes hw
      rw [hu w hw, he]
      exact nofun
    exact ⟨fun hx => absurd hx (hne _ rfl), fun _ _ => hs,
      fun w bytes hw hx => absurd hx (hno w bytes hw),
      fun w bytes hw hx => absurd hx (hno w bytes hw), fun _ => hs⟩
  | taken he hb hk =>
    refine ⟨?_, fun hx => absurd ⟨hc, v, hv⟩ hx, fun _ _ _ _ _ => hc,
      fun _ _ _ _ hx => absurd hx hk, fun hx => absurd he (hx v _ hv)⟩
    intro _ w hw
    rw [hu w hw, hs]
    exact ⟨_, he, hb⟩
  | unflushed he hb hk =>
    refine ⟨fun hx => absurd hx (hne _ rfl), fun _ hx => absurd hk hx,
      fun _ _ _ _ hx => absurd hk hx, ?_, fun hx => absurd he (hx v _ hv)⟩
    intro w bytes hw he' _
    rw [hu w hw, he] at he'
    cases he'
    rw [hs]
    exact ⟨hb, debug, hc⟩

namespace Container

theorem encodeResult_delivery (h : sink.kind.accepts = true) (v : b.Val) :
    Delivery c name b v sink (c.encodeResult name b v sink) := by
  cases he : c.encodeValue name b v with
  | error fault => simpa only [encodeResult, he] using Delivery.refused he
  | ok bytes =>
    obtain ⟨after, hb, hp⟩ := Sink.put_of_accepts h bytes
    simp only [encodeResult, he, hp]
    by_cases hk : sink.kind = .failingFlush
    · rw [if_pos hk]
      exact .unflushed he hb hk
    · rw [if_neg hk]
      exact .taken he hb hk

theorem not_writePanic_of_accepts (h : sink.kind.accepts = true) (argv : List ByteArray)
    (body : Body b) (panic : Panic) : ¬ WritePanic c (.run argv sink body) panic := by
  intro hw
  cases hw with
  | @intro _ _ _ _ _ _ v _ hx hb he =>
    have hd : Delivery c c.functionName b v sink _ := encodeResult_delivery h v
    rw [he] at hd
    cases hd

theorem gives_iff {argv : List ByteArray} {body : Body b} {context : Context} {v : b.Val}
    (h : c.context argv = .ok context) : c.Gives argv body v ↔ body context = .done (some v) := by
  constructor
  · rintro ⟨context', hx, hb⟩
    rw [h] at hx
    cases hx
    exact hb
  · exact fun hb => ⟨context, h, hb⟩

theorem invoke_allOrNothing (h : sink.kind.accepts = true) (argv : List ByteArray) (body : Body b) :
    AllOrNothing c c.functionName (c.Gives argv body) sink (c.invoke argv sink body) := by
  have hcourse := c.serve_run_course argv sink body
  have hwrote : ∀ {context v outcome after}, c.context argv = .ok context →
      body context = .done (some v) →
      c.encodeResult c.functionName b v sink = (outcome, after) →
      ∀ {report : Report}, report.sink = after → report.calls = [outcome.call context.debug] →
      AllOrNothing c c.functionName (c.Gives argv body) sink report := by
    intro context v outcome after hx hb he report hs hc
    refine .of_delivery ((gives_iff hx).mpr hb) ?_ (he ▸ encodeResult_delivery h v) hs hc
    intro w hw
    rw [gives_iff hx, hb] at hw
    cases hw
    rfl
  generalize c.invoke argv sink body = report at hcourse
  cases hcourse with
  | unopened hx =>
    refine .of_no_result ?_ rfl
    rintro v ⟨context, hx', -⟩
    rw [hx] at hx'
    cases hx'
  | failed hx hb =>
    refine .of_no_result (fun v => ?_) rfl
    rw [gives_iff hx, hb]
    exact nofun
  | panicked hx hb =>
    refine .of_no_result (fun v => ?_) rfl
    rw [gives_iff hx, hb]
    exact nofun
  | absent hx hb =>
    refine .of_no_result (fun v => ?_) rfl
    rw [gives_iff hx, hb]
    exact nofun
  | written hx hb he => exact hwrote hx hb he rfl rfl
  | unwritten hx hb he => exact hwrote hx hb he rfl rfl
  | writePanicked hx hb he =>
    exact absurd (.intro hx hb he) (not_writePanic_of_accepts h argv body _)

theorem gives_body {a : DataType} (e : Executor a b) (argv : List ByteArray) :
    c.Gives argv e.body = e.Gives c argv := by
  funext v
  refine propext (exists_congr fun context => ?_)
  simp only [Executor.body, Outcome.bind_eq_done_iff, Outcome.ofExcept_eq_done_iff]
  constructor
  · rintro ⟨hx, input, hi, v', he, hv⟩
    cases hv
    exact ⟨input, hx, hi, he⟩
  · rintro ⟨input, hx, hi, he⟩
    exact ⟨hx, input, hi, v, he, rfl⟩

theorem stream_of_outcome {source : Source} {after : Sink} {e : StreamExecutor}
    {outcome : Outcome Unit} (h : e c source sink = (outcome, after)) (debug : Bool) :
    (c.stream source sink e debug).sink = after ∧
      (c.stream source sink e debug).calls = [outcome.call debug] := by
  cases outcome <;> simp only [stream, h, guarded] <;> exact ⟨rfl, rfl⟩

theorem stream_gives_iff {a : DataType} {e : StreamFunction a b} {source : Source}
    {input : a.Val} {v : b.Val} (h : e.input c source = .ok input) :
    e.Gives c source v ↔ e.function input = .done v := by
  constructor
  · rintro ⟨input', hi, hf⟩
    rw [h] at hi
    cases hi
    exact hf
  · exact fun hf => ⟨input, h, hf⟩

theorem executeStream_allOrNothing {a : DataType} (h : sink.kind.accepts = true) (source : Source)
    (e : StreamFunction a b) (debug : Bool) :
    AllOrNothing c e.name (e.Gives c source) sink (c.executeStream source sink e debug) := by
  have hnone : ∀ {outcome}, e.run c source sink = (outcome, sink) → (∀ v, ¬ e.Gives c source v) →
      AllOrNothing c e.name (e.Gives c source) sink (c.executeStream source sink e debug) :=
    fun hr hv => .of_no_result hv (stream_of_outcome hr debug).1
  cases hi : e.input c source with
  | error fault =>
    refine hnone (by simp only [StreamFunction.run, hi]; rfl) ?_
    rintro v ⟨input, hi', -⟩
    rw [hi] at hi'
    cases hi'
  | ok input =>
    cases hf : e.function input with
    | failed fault =>
      refine hnone (by simp only [StreamFunction.run, hi, hf]; rfl) (fun v => ?_)
      rw [stream_gives_iff hi, hf]
      exact nofun
    | panicked panic =>
      refine hnone (by simp only [StreamFunction.run, hi, hf]; rfl) (fun v => ?_)
      rw [stream_gives_iff hi, hf]
      exact nofun
    | done v =>
      rcases he : c.encodeResult e.name b v sink with ⟨outcome, after⟩
      have hr : e.run c source sink = (outcome, after) := by
        simp only [StreamFunction.run, hi, hf, he]
      obtain ⟨hs, hc⟩ := stream_of_outcome hr debug
      refine .of_delivery ((stream_gives_iff hi).mpr hf) ?_ (he ▸ encodeResult_delivery h v) hs hc
      intro w hw
      rw [stream_gives_iff hi, hf] at hw
      cases hw
      rfl

theorem output_all_or_nothing (c : Container) (sink : Sink) (h : sink.kind.accepts = true) :
    (∀ (argv : List ByteArray) (b : DataType) (body : Body b),
      AllOrNothing c c.functionName (c.Gives argv body) sink (c.serve (.run argv sink body))) ∧
    (∀ (argv : List ByteArray) (a b : DataType) (e : Executor a b),
      AllOrNothing c c.functionName (e.Gives c argv) sink (c.serve (.execute argv sink e))) ∧
    (∀ (source : Source) (a b : DataType) (e : StreamFunction a b) (debug : Bool),
      AllOrNothing c e.name (e.Gives c source) sink
        (c.serve (.executeStream source sink e debug))) := by
  refine ⟨fun argv b body => invoke_allOrNothing h argv body, fun argv a b e => ?_,
    fun source a b e debug => ?_⟩
  · rw [← gives_body]
    exact invoke_allOrNothing h argv e.body
  · rw [serve_executeStream]
    exact executeStream_allOrNothing h source e debug

theorem output_all_or_nothing_text :
    let sink : Sink := ⟨.short, "log:".toUTF8, 2, 1⟩
    let body : Body .string := fun _ => .done (some "done")
    sink.kind.accepts = true ∧
      AllOrNothing .standard Container.standard.functionName (Container.standard.Gives [] body) sink
        (Container.standard.serve (.run [] sink body)) :=
  ⟨rfl, (output_all_or_nothing .standard _ rfl).1 [] .string _⟩

/-- A sink that refuses the flush has the bytes, although the call is an error. -/
theorem bytes_stay_when_flush_refused :
    let sink := Sink.new .failingFlush
    let body : Body .string := fun _ => .done (some "x")
    let report := Container.standard.serve (.run [] sink body)
    sink.kind.accepts = true ∧ Container.standard.Gives [] body "x" ∧
      report.calls = [.error (.io Sink.flushFault) false] ∧ report.sink.bytes = "x".toUTF8 ∧
      report.sink.bytes ≠ sink.bytes :=
  ⟨rfl, ⟨_, rfl, rfl⟩, rfl, rfl, by decide⟩

end Container

end OneShot
