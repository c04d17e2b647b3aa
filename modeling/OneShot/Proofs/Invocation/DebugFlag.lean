import OneShot.Proofs.Arguments.Accepted
import OneShot.Proofs.Invocation.Course

/-! An invocation with the flag and without it. What the function does and what is written stay the
same; the exit call says the same, and asks for full diagnostics with the flag. -/

namespace OneShot

/-- The call with full diagnostics or without them. Only a call that reports a fault has any. -/
def ExitCall.withDebug (debug : Bool) : ExitCall → ExitCall
  | .error fault _ => .error fault debug
  | call => call

theorem ExitCall.status_withDebug (debug : Bool) (call : ExitCall) :
    (call.withDebug debug).status = call.status := by
  cases call <;> rfl

theorem ExitCall.withDebug_withDebug (debug debug' : Bool) (call : ExitCall) :
    (call.withDebug debug).withDebug debug' = call.withDebug debug' := by
  cases call <;> rfl

theorem ExitCall.withDebug_ofFault (debug debug' : Bool) (fault : Fault) :
    (ofFault fault debug).withDebug debug' = ofFault fault debug' := by
  cases fault <;> rfl

def Ending.result : Ending → Except Panic Exit
  | .exited _ exit => .ok exit
  | .panicked panic => .error panic

/-- Two reports of the same effect. -/
structure Report.SameEffect (plain full : Report) : Prop where
  handler : full.handler = plain.handler
  sink : full.sink = plain.sink
  result : full.ending.result = plain.ending.result

/-- Two reports that differ in their diagnostics alone, which the second one has in full. -/
structure Report.Louder (plain full : Report) : Prop extends SameEffect plain full where
  quiet : plain.calls = plain.calls.map (ExitCall.withDebug false)
  loud : full.calls = plain.calls.map (ExitCall.withDebug true)

/-- An exit handler that goes by the status of a call alone, as the standard one does and the one that
records its calls. -/
def ExitHandler.GoesByStatus (h : ExitHandler) : Prop :=
  ∀ call call' : ExitCall, call.status = call'.status → h.answer call = h.answer call'

theorem ExitHandler.ofCodes_goesByStatus (codes : ExitCodes) (reporting : Reporting) :
    (ofCodes codes reporting).GoesByStatus := by
  intro call call' h
  change Exit.ofStatus call.status codes = Exit.ofStatus call'.status codes
  rw [h]

/-- A body that does not look at the flag. -/
def Body.IgnoresDebug {b : DataType} (body : Body b) : Prop :=
  ∀ context : Context, body { context with debug := true } = body { context with debug := false }

theorem Executor.body_ignoresDebug {a b : DataType} {e : Executor a b}
    (h : ∀ (context : Context) input,
      e { context with debug := true } input = e { context with debug := false } input) :
    e.body.IgnoresDebug := by
  intro context
  rw [body, body]
  simp only [h]
  rfl

namespace Container

variable {c : Container} {argv : List ByteArray}

/-- The report of an invocation whose body has come to an outcome. -/
def respond (c : Container) (debug : Bool) {b : DataType} (outcome : Outcome (Option b.Val))
    (sink : Sink) : Report :=
  match guarded debug outcome with
  | (.error fault, alarms) => c.finish (.ofFault fault debug) sink alarms
  | (.ok none, alarms) => c.finish .success sink alarms
  | (.ok (some v), alarms) =>
    match c.encodeResult c.functionName b v sink with
    | (.done (), sink) => c.finish .success sink alarms
    | (.failed fault, sink) => c.finish (.ofFault fault debug) sink alarms
    | (.panicked panic, sink) => ⟨c.exitHandler, [], .panicked panic, sink, alarms + 1⟩

theorem invoke_of_context {context : Context} (h : c.context argv = .ok context) (sink : Sink)
    {b : DataType} (body : Body b) :
    c.invoke argv sink body = c.respond context.debug (body context) sink := by
  simp only [invoke, h]
  rfl

theorem invoke_of_error {fault : Fault} (h : c.context argv = .error fault) (sink : Sink)
    {b : DataType} (body : Body b) :
    c.invoke argv sink body = c.finish (.ofFault fault false) sink 0 := by
  simp only [invoke, h]

theorem finish_fault_louder (hh : c.exitHandler.GoesByStatus) (fault : Fault) (sink : Sink)
    (alarms alarms' : Nat) :
    Report.Louder (c.finish (.ofFault fault false) sink alarms)
      (c.finish (.ofFault fault true) sink alarms') := by
  have hcall : ExitCall.ofFault fault true = (ExitCall.ofFault fault false).withDebug true :=
    (ExitCall.withDebug_ofFault false true fault).symm
  have hself : ExitCall.ofFault fault false = (ExitCall.ofFault fault false).withDebug false :=
    (ExitCall.withDebug_ofFault false false fault).symm
  have hstatus : (ExitCall.ofFault fault true).status = (ExitCall.ofFault fault false).status := by
    rw [hcall, ExitCall.status_withDebug]
  exact ⟨⟨rfl, rfl, congrArg Except.ok (hh _ _ hstatus)⟩, congrArg List.singleton hself,
    congrArg List.singleton hcall⟩

theorem finish_success_louder (sink : Sink) (alarms alarms' : Nat) :
    Report.Louder (c.finish .success sink alarms) (c.finish .success sink alarms') :=
  ⟨⟨rfl, rfl, rfl⟩, rfl, rfl⟩

theorem respond_louder (hh : c.exitHandler.GoesByStatus) {b : DataType}
    (outcome : Outcome (Option b.Val)) (sink : Sink) :
    (c.respond false outcome sink).Louder (c.respond true outcome sink) := by
  cases outcome with
  | failed fault => exact finish_fault_louder hh fault sink 0 0
  | panicked panic => exact finish_fault_louder hh (.panicked panic.message) sink 0 1
  | done result =>
    cases result with
    | none => exact finish_success_louder sink 0 0
    | some v =>
      simp only [respond, guarded]
      rcases c.encodeResult c.functionName b v sink with ⟨written, after⟩
      cases written with
      | done => exact finish_success_louder after 0 0
      | failed fault => exact finish_fault_louder hh fault after 0 0
      | panicked panic => exact ⟨⟨rfl, rfl, rfl⟩, rfl, rfl⟩

theorem stream_louder (hh : c.exitHandler.GoesByStatus) (source : Source) (sink : Sink)
    (e : StreamExecutor) : (c.stream source sink e false).Louder (c.stream source sink e true) := by
  simp only [stream]
  rcases e c source sink with ⟨outcome, after⟩
  cases outcome with
  | done => exact finish_success_louder after 0 0
  | failed fault => exact finish_fault_louder hh fault after 0 0
  | panicked panic => exact finish_fault_louder hh (.panicked panic.message) after 0 1

/-- The flag in front of arguments that do not set it sets it in the context, and does not make a
context where there is none. -/
theorem context_debug_cons (ha : ∀ args, Arguments.parse argv = .ok args → args.debug = false) :
    (∃ context : Context, c.context argv = .ok { context with debug := false } ∧
      c.context ("--debug".toUTF8 :: argv) = .ok { context with debug := true }) ∨
    ∃ fault fault', c.context argv = .error fault ∧
      c.context ("--debug".toUTF8 :: argv) = .error fault' ∧ fault'.kind = fault.kind ∧
      ∀ args, Arguments.parse argv = .ok args → fault' = fault := by
  rcases hd : c.decoder with fault | decoder
  · right
    have hx : ∀ argv, c.context argv = .error fault := by
      intro argv
      rw [context, hd]
      rfl
    exact ⟨fault, fault, hx _, hx _, rfl, fun _ _ => rfl⟩
  · have hx : ∀ argv, c.context argv = Context.parse argv decoder := by
      intro argv
      rw [context, hd]
      rfl
    rw [hx, hx, Context.parse, Context.parse]
    cases hp : Arguments.parse argv with
    | ok args =>
      have hfull : Arguments.parse ("--debug".toUTF8 :: argv) = .ok { args with debug := true } := by
        refine Arguments.parse_debug_eq_ok_iff.mpr ⟨rfl, ?_⟩
        rw [hp, ← ha args hp]
      left
      rw [hfull]
      refine ⟨Context.ofArguments args decoder, ?_, rfl⟩
      rw [← ha args hp]
      rfl
    | error fault =>
      right
      cases hq : Arguments.parse ("--debug".toUTF8 :: argv) with
      | ok args =>
        have h := (Arguments.parse_debug_eq_ok_iff.mp hq).2
        rw [hp] at h
        cases h
      | error fault' => exact ⟨_, _, rfl, rfl, rfl, fun args h => by cases h⟩

theorem ofFault_of_context_error {fault : Fault} (h : c.context argv = .error fault)
    (debug : Bool) : ExitCall.ofFault fault debug = .error fault debug := by
  cases context_eq_error_iff.mp h <;> rfl

/-- What the flag makes of the report of an invocation. -/
structure FlagEffect (c : Container) (argv : List ByteArray) (plain full : Report) : Prop where
  same : plain.SameEffect full
  opened : ∀ context, c.context argv = .ok context → plain.Louder full
  /-- Without a context both calls are of one kind of fault, and neither is for full diagnostics. -/
  unopened : ∀ fault, c.context argv = .error fault → plain.calls = [.error fault false] ∧
    ∃ fault', full.calls = [.error fault' false] ∧ fault'.kind = fault.kind
  parsed : ∀ args, Arguments.parse argv = .ok args →
    full.calls.map (ExitCall.withDebug false) = plain.calls

theorem FlagEffect.of_louder {plain full : Report} {context : Context}
    (h : c.context argv = .ok context) (hl : plain.Louder full) : FlagEffect c argv plain full where
  same := hl.toSameEffect
  opened _ _ := hl
  unopened fault hf := by
    rw [h] at hf
    cases hf
  parsed _ _ := by
    rw [hl.loud, List.map_map, hl.quiet, List.map_map]
    refine List.map_congr_left fun call _ => ?_
    simp only [Function.comp_apply, ExitCall.withDebug_withDebug]

theorem invoke_flagEffect (hh : c.exitHandler.GoesByStatus)
    (ha : ∀ args, Arguments.parse argv = .ok args → args.debug = false) (sink : Sink)
    {b : DataType} {body : Body b} (hb : body.IgnoresDebug) :
    FlagEffect c argv (c.invoke argv sink body)
      (c.invoke ("--debug".toUTF8 :: argv) sink body) := by
  rcases context_debug_cons (c := c) ha with
    ⟨context, hplain, hfull⟩ | ⟨fault, fault', hplain, hfull, hkind, hsame⟩
  · rw [invoke_of_context hplain, invoke_of_context hfull, hb context]
    exact .of_louder hplain (respond_louder hh _ sink)
  · rw [invoke_of_error hplain, invoke_of_error hfull, ofFault_of_context_error hplain,
      ofFault_of_context_error hfull]
    refine ⟨⟨rfl, rfl, congrArg Except.ok (hh _ _ rfl)⟩, ?_, ?_, ?_⟩
    · intro context h
      rw [hplain] at h
      cases h
    · intro f hf
      rw [hplain] at hf
      cases hf
      exact ⟨rfl, fault', rfl, hkind⟩
    · intro args hp
      rw [hsame args hp]
      rfl

end Container

end OneShot
