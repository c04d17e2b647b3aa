import OneShot.Diagnostic
import OneShot.Stream

/-! How an invocation ends: one call on the exit handler, which answers with the exit. A handler may
report what it was told, as a diagnostic or as a record of its calls. -/

namespace OneShot

inductive ExitStatus
  | success
  | failure
  | noData
  deriving DecidableEq, Repr

def ExitStatus.name : ExitStatus → String
  | success => "success"
  | failure => "failure"
  | noData => "no-data"

structure Exit where
  status : ExitStatus
  code : UInt8
  deriving DecidableEq

namespace Exit

def ofStatus (status : ExitStatus) (codes : ExitCodes) : Exit :=
  ⟨status, match status with
    | .success => codes.success
    | .failure => codes.error
    | .noData => codes.noData⟩

def isSuccess (exit : Exit) : Bool :=
  exit.status = .success

def describe (exit : Exit) : Json.Value :=
  .object [
    ("code", .number (.ofNat exit.code.toNat (Nat.lt_trans exit.code.toNat_lt (by decide)))),
    ("is_success", .bool exit.isSuccess),
    ("status", .string exit.status.name)]

end Exit

inductive ExitCall
  | success
  | error (fault : Fault) (debug : Bool)
  | noData

namespace ExitCall

/-- The call that reports a fault. Absent data has a call of its own. -/
def ofFault (fault : Fault) (debug : Bool) : ExitCall :=
  match fault with
  | .noData => noData
  | fault => error fault debug

def status : ExitCall → ExitStatus
  | success => .success
  | error _ _ => .failure
  | noData => .noData

def report (palette : Palette) : ExitCall → String
  | success => ""
  | error fault debug => fault.report debug palette
  | noData => noDataNotice palette

def diagnostic (palette : Palette) : ExitCall → String
  | success => ""
  | error fault debug => fault.diagnostic debug palette
  | noData => noDataNotice palette

end ExitCall

inductive Reporting
  | standardError
  | buffer
  | record
  | silent
  deriving DecidableEq, Repr

structure ExitHandler where
  answer : ExitCall → Exit
  reporting : Reporting

namespace ExitHandler

def ofCodes (codes : ExitCodes) (reporting : Reporting) : ExitHandler :=
  ⟨fun call => Exit.ofStatus call.status codes, reporting⟩

def kept (h : ExitHandler) (call : ExitCall) : List ExitCall :=
  if h.reporting = .record then [call] else []

/-- Answers with codes of its own, 100 for success to 103 for absent data. -/
def hundreds : ExitHandler :=
  ⟨fun
    | .success => ⟨.success, 100⟩
    | .error _ debug => ⟨.failure, if debug then 102 else 101⟩
    | .noData => ⟨.noData, 103⟩, .silent⟩

end ExitHandler

structure Reported where
  outcome : Outcome Exit
  sink : Sink
  shown : String

/-- The standard handler over a sink: writes the report, whatever becomes of it, and answers by the
codes. A panic of the sink is not held back. A host shows nothing of a report that the sink did not
take. -/
def reportTo (codes : ExitCodes) (palette : Palette) (sink : Sink) (call : ExitCall) : Reported :=
  let exit := Exit.ofStatus call.status codes
  match call with
  | .success => ⟨.done exit, sink, ""⟩
  | call =>
    let (written, after) := sink.put (call.report palette).toUTF8
    let outcome := match written with
      | .panicked panic => .panicked panic
      | _ => .done exit
    ⟨outcome, after,
      if after.bytes.size = sink.bytes.size then "" else call.diagnostic palette⟩

end OneShot
