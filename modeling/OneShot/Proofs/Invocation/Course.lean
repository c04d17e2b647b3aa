import OneShot.Proofs.Runner.History
import Mathlib.Data.Option.Basic

/-! The courses that an invocation can take, from its context to its report. -/

namespace OneShot

inductive ContextFault (c : Container) (argv : List ByteArray) : Fault → Prop
  | conversions (h : c.find? .conversions = none) :
      ContextFault c argv (.beanNotFound BeanKind.conversions.typeName)
  | codecs (h : c.find? .conversions ≠ none) (h' : c.find? .codecs = none) :
      ContextFault c argv (.beanNotFound BeanKind.codecs.typeName)
  | arguments (h : c.find? .conversions ≠ none) (h' : c.find? .codecs ≠ none)
      {fault : ArgumentFault} (hp : Arguments.parse argv = .error fault) :
      ContextFault c argv (.arguments fault)

namespace Container

variable {c : Container} {argv : List ByteArray}

theorem context_of_no_conversions (h : c.find? .conversions = none) :
    c.context argv = .error (.beanNotFound BeanKind.conversions.typeName) := by
  simp only [context, decoder, BeanStore.get_of_none h]
  rfl

theorem context_of_no_codecs {table : ConversionTable} (h : c.find? .conversions = some table)
    (h' : c.find? .codecs = none) :
    c.context argv = .error (.beanNotFound BeanKind.codecs.typeName) := by
  simp only [context, decoder, BeanStore.get_of_some h, BeanStore.get_of_none h']
  rfl

theorem context_of_beans {table : ConversionTable} {codecs : CodecRegistry}
    (h : c.find? .conversions = some table) (h' : c.find? .codecs = some codecs) :
    c.context argv = Context.parse argv ⟨table, codecs⟩ := by
  simp only [context, decoder, BeanStore.get_of_some h, BeanStore.get_of_some h']
  rfl

theorem context_eq_error_iff {fault : Fault} :
    c.context argv = .error fault ↔ ContextFault c argv fault := by
  constructor
  · intro h
    cases hc : c.find? .conversions with
    | none =>
      rw [context_of_no_conversions hc] at h
      cases h
      exact .conversions hc
    | some table =>
      cases hk : c.find? .codecs with
      | none =>
        rw [context_of_no_codecs hc hk] at h
        cases h
        exact .codecs (by simp [hc]) hk
      | some codecs =>
        rw [context_of_beans hc hk, Context.parse] at h
        cases hp : Arguments.parse argv with
        | ok args => simp [hp] at h
        | error f =>
          simp only [hp, Except.error.injEq] at h
          exact h ▸ .arguments (by simp [hc]) (by simp [hk]) hp
  · rintro (hc | ⟨hc, hk⟩ | ⟨hc, hk, hp⟩)
    · exact context_of_no_conversions hc
    · obtain ⟨table, hc⟩ := Option.ne_none_iff_exists'.mp hc
      exact context_of_no_codecs hc hk
    · obtain ⟨table, hc⟩ := Option.ne_none_iff_exists'.mp hc
      obtain ⟨codecs, hk⟩ := Option.ne_none_iff_exists'.mp hk
      rw [context_of_beans hc hk, Context.parse, hp]

/-- The courses that an invocation can take, each with its report. -/
inductive Course (c : Container) : Invocation → Report → Prop
  | unopened {argv : List ByteArray} {sink : Sink} {b : DataType} {body : Body b} {fault : Fault}
      (h : c.context argv = .error fault) :
      Course c (.run argv sink body) (c.finish (.ofFault fault false) sink 0)
  | failed {argv : List ByteArray} {sink : Sink} {b : DataType} {body : Body b}
      {context : Context} {fault : Fault} (h : c.context argv = .ok context)
      (hb : body context = .failed fault) :
      Course c (.run argv sink body) (c.finish (.ofFault fault context.debug) sink 0)
  | panicked {argv : List ByteArray} {sink : Sink} {b : DataType} {body : Body b}
      {context : Context} {panic : Panic} (h : c.context argv = .ok context)
      (hb : body context = .panicked panic) :
      Course c (.run argv sink body)
        (c.finish (.ofFault (.panicked panic.message) context.debug) sink
          (if context.debug then 1 else 0))
  | absent {argv : List ByteArray} {sink : Sink} {b : DataType} {body : Body b}
      {context : Context} (h : c.context argv = .ok context) (hb : body context = .done none) :
      Course c (.run argv sink body) (c.finish .success sink 0)
  | written {argv : List ByteArray} {sink after : Sink} {b : DataType} {body : Body b}
      {context : Context} {v : b.Val} (h : c.context argv = .ok context)
      (hb : body context = .done (some v))
      (he : c.encodeResult c.functionName b v sink = (.done (), after)) :
      Course c (.run argv sink body) (c.finish .success after 0)
  | unwritten {argv : List ByteArray} {sink after : Sink} {b : DataType} {body : Body b}
      {context : Context} {v : b.Val} {fault : Fault} (h : c.context argv = .ok context)
      (hb : body context = .done (some v))
      (he : c.encodeResult c.functionName b v sink = (.failed fault, after)) :
      Course c (.run argv sink body) (c.finish (.ofFault fault context.debug) after 0)
  | writePanicked {argv : List ByteArray} {sink after : Sink} {b : DataType} {body : Body b}
      {context : Context} {v : b.Val} {panic : Panic} (h : c.context argv = .ok context)
      (hb : body context = .done (some v))
      (he : c.encodeResult c.functionName b v sink = (.panicked panic, after)) :
      Course c (.run argv sink body) ⟨c.exitHandler, [], .panicked panic, after, 1⟩
  | streamed {source : Source} {sink after : Sink} {e : StreamExecutor} {debug : Bool}
      (h : e c source sink = (.done (), after)) :
      Course c (.stream source sink e debug) (c.finish .success after 0)
  | streamFailed {source : Source} {sink after : Sink} {e : StreamExecutor} {debug : Bool}
      {fault : Fault} (h : e c source sink = (.failed fault, after)) :
      Course c (.stream source sink e debug) (c.finish (.ofFault fault debug) after 0)
  | streamPanicked {source : Source} {sink after : Sink} {e : StreamExecutor} {debug : Bool}
      {panic : Panic} (h : e c source sink = (.panicked panic, after)) :
      Course c (.stream source sink e debug)
        (c.finish (.ofFault (.panicked panic.message) debug) after (if debug then 1 else 0))

theorem serve_run_course (c : Container) (argv : List ByteArray) (sink : Sink) {b : DataType}
    (body : Body b) : Course c (.run argv sink body) (c.invoke argv sink body) := by
  cases h : c.context argv with
  | error fault => simpa only [invoke, h] using Course.unopened h
  | ok context =>
    cases hb : body context with
    | failed fault => simpa only [invoke, h, hb, guarded] using Course.failed h hb
    | panicked panic => simpa only [invoke, h, hb, guarded] using Course.panicked h hb
    | done result =>
      cases result with
      | none => simpa only [invoke, h, hb, guarded] using Course.absent h hb
      | some v =>
        rcases he : c.encodeResult c.functionName b v sink with ⟨outcome, after⟩
        cases outcome with
        | done => simpa only [invoke, h, hb, guarded, he] using Course.written h hb he
        | failed fault => simpa only [invoke, h, hb, guarded, he] using Course.unwritten h hb he
        | panicked panic =>
          simpa only [invoke, h, hb, guarded, he] using Course.writePanicked h hb he

theorem serve_stream_course (c : Container) (source : Source) (sink : Sink) (e : StreamExecutor)
    (debug : Bool) : Course c (.stream source sink e debug) (c.stream source sink e debug) := by
  rcases h : e c source sink with ⟨outcome, after⟩
  cases outcome with
  | done => simpa only [stream, h, guarded] using Course.streamed h
  | failed fault => simpa only [stream, h, guarded] using Course.streamFailed h
  | panicked panic => simpa only [stream, h, guarded] using Course.streamPanicked h

theorem serve_course (c : Container) (q : Invocation) : Course c q (c.serve q) := by
  cases q with
  | run argv sink body => exact serve_run_course c argv sink body
  | stream source sink e debug => exact serve_stream_course c source sink e debug

end Container

end OneShot
