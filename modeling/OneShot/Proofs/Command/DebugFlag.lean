import OneShot.Proofs.Arguments
import OneShot.Proofs.Command.ExitProtocol
import OneShot.Proofs.Invocation.DebugFlag

/-! The flag in front of the arguments of the process. The exit code and what is written are those of the
arguments without it. -/

namespace OneShot

namespace Command

variable {argv : List ByteArray}

theorem goesByStatus_running (config : Config) :
    (running config).exitHandler.GoesByStatus :=
  ExitHandler.ofCodes_goesByStatus config.exitCodes .standardError

theorem exists_body (name : String) : ∃ (b : DataType) (body : Body b), body.IgnoresDebug ∧
    ∀ (config : Config) (argv : List ByteArray),
      (running config).serve (invocation name argv) =
        (running config).invoke argv (.new .accepting) body := by
  cases hf : Builtin.find? name with
  | none =>
    refine ⟨.unit, fun _ => .failed (.config (.unknownFunction name)), fun _ => rfl, ?_⟩
    intro config argv
    rw [invocation, hf]
    rfl
  | some b =>
    refine ⟨b.output, b.function.executor.body, Executor.body_ignoresDebug fun _ _ => rfl, ?_⟩
    intro config argv
    rw [invocation, hf]
    rfl

theorem ofReport_of_sameEffect {plain full : Report} (h : plain.SameEffect full)
    (palette : Palette) :
    (ofReport full palette).code = (ofReport plain palette).code ∧
      (ofReport full palette).out = (ofReport plain palette).out := by
  have hr := h.result
  rw [ofReport, ofReport, h.sink]
  cases hp : plain.ending <;> cases hf : full.ending <;> rw [hp, hf] at hr <;> cases hr <;>
    exact ⟨rfl, rfl⟩

theorem runConfigured_eq (env : Environment) (config : Config) (argv : List ByteArray) :
    runConfigured env config argv =
      ofReport ((running config).serve (invocation config.functionName argv)) env.palette := by
  obtain ⟨runner, ho, hcontainer, hclose⟩ := owning_container config
  simp only [runConfigured, ho, hclose, dispatch_eq, hcontainer]

theorem run_debug_cons (ha : ∀ args, Arguments.parse argv = .ok args → args.debug = false)
    (env : Environment) :
    (run env ("--debug".toUTF8 :: argv)).code = (run env argv).code ∧
      (run env ("--debug".toUTF8 :: argv)).out = (run env argv).out := by
  rw [run, run]
  cases loadConfig env with
  | error fault => exact ⟨rfl, rfl⟩
  | ok config =>
    obtain ⟨b, body, hb, hserve⟩ := exists_body config.functionName
    have hsame := (Container.invoke_flagEffect (goesByStatus_running config) ha
      (.new .accepting) hb).same
    simp only [runConfigured_eq, hserve]
    exact ofReport_of_sameEffect hsame env.palette

/-- The flag in front of arguments that do not set it changes the diagnostics and nothing else, if the
exit handler goes by the status of its calls and the body does not look at the flag. -/
theorem debug_changes_diagnostics {c : Container} (hh : c.exitHandler.GoesByStatus)
    (ha : ∀ args, Arguments.parse argv = .ok args → args.debug = false) :
    (∀ (sink : Sink) (b : DataType) (body : Body b), body.IgnoresDebug →
      Container.FlagEffect c argv (c.invoke argv sink body)
        (c.invoke ("--debug".toUTF8 :: argv) sink body)) ∧
    (∀ (source : Source) (sink : Sink) (e : StreamExecutor),
      (c.stream source sink e false).Louder (c.stream source sink e true)) ∧
    ∀ env : Environment,
      (run env ("--debug".toUTF8 :: argv)).code = (run env argv).code ∧
        (run env ("--debug".toUTF8 :: argv)).out = (run env argv).out :=
  ⟨fun sink _ _ hb => Container.invoke_flagEffect hh ha sink hb,
    fun source sink e => Container.stream_louder hh source sink e, run_debug_cons ha⟩

/-- A payload that is refused: the flag asks for full diagnostics of the same fault. -/
theorem debug_changes_diagnostics_refused :
    let c := Container.standard
    let argv := ["--data".toUTF8, "no".toUTF8]
    let body := Sample.refuse.executor.body
    let sink := Sink.new .accepting
    let refused := Fault.function (.plain "refused no")
    c.exitHandler.GoesByStatus ∧ (∀ args, Arguments.parse argv = .ok args → args.debug = false) ∧
      body.IgnoresDebug ∧
      Container.FlagEffect c argv (c.invoke argv sink body)
        (c.invoke ("--debug".toUTF8 :: argv) sink body) ∧
      (c.invoke argv sink body).calls = [.error refused false] ∧
      (c.invoke ("--debug".toUTF8 :: argv) sink body).calls = [.error refused true] := by
  intro c argv body sink refused
  have hh : c.exitHandler.GoesByStatus := ExitHandler.ofCodes_goesByStatus _ _
  have hp : Arguments.parse argv = .ok ⟨false, some "no"⟩ := Arguments.parse_of_pass .plain
  have ha : ∀ args, Arguments.parse argv = .ok args → args.debug = false := by
    intro args h
    rw [hp] at h
    cases h
    rfl
  have hb : body.IgnoresDebug := Executor.body_ignoresDebug fun _ _ => rfl
  have hx : c.context argv = .ok (.ofArguments ⟨false, some "no"⟩ .standard) := by
    have hbeans : c.context argv = Context.parse argv .standard :=
      Container.context_of_beans rfl rfl
    rw [hbeans, Context.parse, hp]
  have hf := (debug_changes_diagnostics hh ha).1 sink _ body hb
  have hplain : (c.invoke argv sink body).calls = [.error refused false] := by
    rw [Container.invoke_of_context hx]
    rfl
  refine ⟨hh, ha, hb, hf, hplain, ?_⟩
  rw [(hf.opened _ hx).loud, hplain]
  rfl

end Command

end OneShot
