import OneShot.Fault

/-! Byte streams. A source yields its bytes or breaks off; a sink takes bytes write by write, and may
take fewer than offered, refuse, or panic. What was asked of a sink is counted. -/

namespace OneShot

inductive Panic
  | text (s : String)
  | opaqueValue

def Panic.message : Panic → String
  | text s => s
  | opaqueValue => "unknown panic payload"

inductive Outcome (α : Type)
  | done (a : α)
  | failed (fault : Fault)
  | panicked (panic : Panic)

namespace Outcome

def ofExcept {α : Type} : Except Fault α → Outcome α
  | .ok a => done a
  | .error fault => failed fault

def bind {α β : Type} (x : Outcome α) (f : α → Outcome β) : Outcome β :=
  match x with
  | done a => f a
  | failed fault => failed fault
  | panicked panic => panicked panic

instance : Monad Outcome where
  pure := done
  bind := bind

theorem ofExcept_eq_done_iff {α : Type} {x : Except Fault α} {a : α} :
    ofExcept x = done a ↔ x = .ok a := by
  cases x <;> simp only [ofExcept, done.injEq, Except.ok.injEq, reduceCtorEq]

theorem bind_eq_done_iff {α β : Type} {x : Outcome α} {f : α → Outcome β} {b : β} :
    x >>= f = done b ↔ ∃ a, x = done a ∧ f a = done b := by
  change bind x f = done b ↔ _
  cases x with
  | done a => exact ⟨fun h => ⟨a, rfl, h⟩, fun ⟨_, ha, h⟩ => done.inj ha ▸ h⟩
  | failed fault => exact ⟨nofun, nofun⟩
  | panicked panic => exact ⟨nofun, nofun⟩

end Outcome

inductive SourceKind
  | whole
  | bytewise
  | interrupted
  /-- Breaks off after the first byte, if there is one. -/
  | broken
  deriving DecidableEq, Repr

structure Source where
  kind : SourceKind
  bytes : ByteArray

def Source.readText (source : Source) : Except IoFault String :=
  if source.kind = .broken ∧ source.bytes.size ≠ 0 then
    .error (.raised .connectionReset "source lost")
  else match String.fromUTF8? source.bytes with
    | some text => .ok text
    | none => .error .notUtf8

inductive SinkKind
  | accepting
  | short
  /-- Takes at most so many bytes and one more in each write, and everything after those. -/
  | pieces (sizes : List Nat)
  | stuck
  | interrupted
  | failing
  | failingFlush
  | panicking
  deriving DecidableEq, Repr

structure Sink where
  kind : SinkKind
  bytes : ByteArray
  writes : Nat
  flushes : Nat

inductive Attempt
  | took (count : Nat)
  | interrupted
  | failed (fault : IoFault)
  | panicked (panic : Panic)

namespace Sink

def new (kind : SinkKind) : Sink :=
  ⟨kind, ByteArray.empty, 0, 0⟩

/-- How a sink that has been asked `earlier` times answers a write of `size` bytes. -/
def attempt (kind : SinkKind) (earlier size : Nat) : Attempt :=
  match kind with
  | .accepting | .failingFlush => .took size
  | .short => .took (min 3 size)
  | .pieces sizes => .took (min (sizes.getD earlier size + 1) size)
  | .stuck => .took 0
  | .interrupted => if earlier = 0 then .interrupted else .took size
  | .failing => .failed (.raised .brokenPipe "sink closed")
  | .panicking => if earlier = 0 then .panicked (.text "sink panicked") else .took size

/-- Writes until everything is taken. The count bounds the writes. -/
def writeLoop : Nat → Sink → ByteArray → Outcome Unit × Sink
  | 0, sink, _ => (.done (), sink)
  | n + 1, sink, data =>
    if data.size = 0 then (.done (), sink)
    else
      let asked := { sink with writes := sink.writes + 1 }
      match attempt sink.kind sink.writes data.size with
      | .took 0 => (.failed (.io .nothingWritten), asked)
      | .took count =>
        writeLoop n { asked with bytes := sink.bytes ++ data.extract 0 count }
          (data.extract count data.size)
      | .interrupted => writeLoop n asked data
      | .failed fault => (.failed (.io fault), asked)
      | .panicked panic => (.panicked panic, asked)

def writeAll (sink : Sink) (data : ByteArray) : Outcome Unit × Sink :=
  writeLoop (data.size + 1) sink data

def flushFault : IoFault := .raised .other "flush refused"

def flush (sink : Sink) : Outcome Unit × Sink :=
  let asked := { sink with flushes := sink.flushes + 1 }
  match sink.kind with
  | .failingFlush => (.failed (.io flushFault), asked)
  | _ => (.done (), asked)

def put (sink : Sink) (data : ByteArray) : Outcome Unit × Sink :=
  match sink.writeAll data with
  | (.done (), sink) => sink.flush
  | stopped => stopped

end Sink

end OneShot
