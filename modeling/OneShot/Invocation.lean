import OneShot.Container
import OneShot.Context

/-! One invocation of a function: decode, call, encode, write, and end with one call on the exit
handler. A payload comes by argument or by stream. -/

namespace OneShot

abbrev Function (a b : DataType) : Type :=
  a.Val → Outcome b.Val

/-- A function that may look at the context of its call. -/
abbrev Executor (a b : DataType) : Type :=
  Context → a.Val → Outcome b.Val

abbrev Body (b : DataType) : Type :=
  Context → Outcome (Option b.Val)

def Executor.body {a b : DataType} (e : Executor a b) : Body b := fun context => do
  let input ← Outcome.ofExcept (context.get a)
  let output ← e context input
  return some output

theorem Executor.body_of_error {a b : DataType} (e : Executor a b) {context : Context}
    {fault : Fault} (h : context.get a = .error fault) : e.body context = .failed fault := by
  rw [body, h]
  rfl

theorem Executor.body_of_ok {a b : DataType} (e : Executor a b) {context : Context}
    {input : a.Val} (h : context.get a = .ok input) :
    e.body context = (e context input).bind fun output => .done (some output) := by
  rw [body, h]
  rfl

def Function.executor {a b : DataType} (f : Function a b) : Executor a b :=
  fun _ => f

/-- The bytes of a result under the name of its function: text if its type has a converter, else by
the codec of the media type registered for the name. -/
def Container.encodeValue (c : Container) (name : String) (t : DataType) (v : t.Val) :
    Except Fault ByteArray := do
  let conversions ← c.get .conversions
  match conversions.render t v with
  | some text => return text.toUTF8
  | none =>
    let functions ← c.get .functions
    let media := functions.mediaTypeFor name
    let codecs ← c.get .codecs
    match codecs.find? media with
    | some codec => codec.encode t v
    | none => .error (.codecNotFound media)

/-- Encodes a result and writes it. Nothing is written before the encoding is complete. -/
def Container.encodeResult (c : Container) (name : String) (t : DataType) (v : t.Val)
    (sink : Sink) : Outcome Unit × Sink :=
  match c.encodeValue name t v with
  | .error fault => (.failed fault, sink)
  | .ok bytes => sink.put bytes

inductive Ending
  | exited (call : ExitCall) (exit : Exit)
  | panicked (panic : Panic)

structure Report where
  handler : ExitHandler
  calls : List ExitCall
  ending : Ending
  sink : Sink
  /-- How many panics the host was told of. -/
  alarms : Nat

namespace Report

def diagnosticsIn (r : Report) (place : Reporting) (palette : Palette) : String :=
  if r.handler.reporting = place then
    String.join (r.calls.map fun call => call.diagnostic palette)
  else ""

def recorded (r : Report) : List ExitCall :=
  r.calls.flatMap r.handler.kept

end Report

/-- Turns a panic into a fault. The host is told of it in debug mode only. -/
def guarded {α : Type} (debug : Bool) (x : Outcome α) : Except Fault α × Nat :=
  match x with
  | .done a => (.ok a, 0)
  | .failed fault => (.error fault, 0)
  | .panicked panic => (.error (.panicked panic.message), if debug then 1 else 0)

namespace Container

def functionName (c : Container) : String :=
  ((c.find? .config).getD .standard).functionName

def context (c : Container) (argv : List ByteArray) : Except Fault Context := do
  let decoder ← c.decoder
  Context.parse argv decoder

def finish (c : Container) (call : ExitCall) (sink : Sink) (alarms : Nat) : Report :=
  ⟨c.exitHandler, [call], .exited call (c.exitHandler.answer call), sink, alarms⟩

def invoke (c : Container) (argv : List ByteArray) (sink : Sink) {b : DataType} (body : Body b) :
    Report :=
  match c.context argv with
  | .error fault => c.finish (.ofFault fault false) sink 0
  | .ok context =>
    match guarded context.debug (body context) with
    | (.error fault, alarms) => c.finish (.ofFault fault context.debug) sink alarms
    | (.ok none, alarms) => c.finish .success sink alarms
    | (.ok (some v), alarms) =>
      match c.encodeResult c.functionName b v sink with
      | (.done (), sink) => c.finish .success sink alarms
      | (.failed fault, sink) => c.finish (.ofFault fault context.debug) sink alarms
      | (.panicked panic, sink) => ⟨c.exitHandler, [], .panicked panic, sink, alarms + 1⟩

def execute (c : Container) (argv : List ByteArray) (sink : Sink) {a b : DataType}
    (f : Function a b) : Report :=
  c.invoke argv sink f.executor.body

end Container

/-- What takes its payload from a source and writes its result to a sink, with a container as its
context. -/
abbrev StreamExecutor : Type :=
  Container → Source → Sink → Outcome Unit × Sink

def Container.stream (c : Container) (source : Source) (sink : Sink) (e : StreamExecutor)
    (debug : Bool) : Report :=
  let (outcome, sink) := e c source sink
  match guarded debug outcome with
  | (.ok (), alarms) => c.finish .success sink alarms
  | (.error fault, alarms) => c.finish (.ofFault fault debug) sink alarms

def dropLineEnd (s : String) : String :=
  match s.toList.reverse with
  | '\n' :: '\r' :: r => String.ofList r.reverse
  | '\n' :: r => String.ofList r.reverse
  | _ => s

structure StreamFunction (a b : DataType) where
  name : String
  function : Function a b

namespace StreamFunction

variable {a b : DataType}

/-- The input decoded from a stream. An empty stream is an absent payload. -/
def input (e : StreamFunction a b) (c : Container) (source : Source) : Except Fault a.Val :=
  match source.readText with
  | .error fault => .error (.io fault)
  | .ok text =>
    let payload := dropLineEnd text
    if payload.isEmpty then .error .noData
    else do
      let functions ← c.get .functions
      let decoder ← c.decoder
      decoder.decodeWith a payload (functions.mediaTypeFor e.name)

def run (e : StreamFunction a b) (c : Container) (source : Source) (sink : Sink) :
    Outcome Unit × Sink :=
  match e.input c source with
  | .error fault => (.failed fault, sink)
  | .ok input =>
    match e.function input with
    | .failed fault => (.failed fault, sink)
    | .panicked panic => (.panicked panic, sink)
    | .done output => c.encodeResult e.name b output sink

end StreamFunction

def Container.executeStream (c : Container) (source : Source) (sink : Sink) {a b : DataType}
    (e : StreamFunction a b) (debug : Bool) : Report :=
  c.stream source sink e.run debug

end OneShot
