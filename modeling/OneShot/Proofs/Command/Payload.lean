import OneShot.Proofs.Arguments
import OneShot.Proofs.Command.DebugFlag

/-! What the process does with the payload of its arguments. It writes the result of its function, or it
tells of one fault and writes nothing. -/

namespace OneShot.Command

open Arguments

variable {env : Environment} {config : Config} {argv : List ByteArray}

theorem debugRequested_of_supplies {payload : String} {debug : Bool}
    (h : Supplies payload debug argv) : debugRequested argv = debug := by
  rw [debugRequested, supplies_iff.mp h]

theorem loadConfig_valid (h : loadConfig env = .ok config) : config.exitCodes.Valid := by
  cases hs : settings env with
  | error fault =>
    rw [loadConfig_of_error hs] at h
    cases h
  | ok found =>
    rw [loadConfig_of_ok hs] at h
    cases h
    have hcodes : found.exitCodes.Valid := settings_valid hs
    exact hcodes

/-- A name in the environment counts, unless it is blank. -/
theorem loadConfig_of_function {name : String} (hs : settings env = .ok config)
    (hf : env.function = some name.toUTF8) (hb : name.toList.all isBlank = false)
    (ht : trim name = name) : loadConfig env = .ok { config with functionName := name } := by
  rw [loadConfig_of_ok hs, calledName, hf]
  simp only [Option.bind_some, fromUTF8?_toUTF8, hb, ht, Bool.false_eq_true, if_false]

/-- What the process tells besides its result is the diagnostic of the one call. -/
theorem err_of_call {call : ExitCall} (h : loadConfig env = .ok config)
    (hc : ((running config).serve (invocation config.functionName argv)).calls = [call]) :
    (run env argv).err = warningLine env config argv ++ call.diagnostic env.palette := by
  have hsettled := (serve_invocation config config.functionName argv).1
  obtain ⟨call', hc', he⟩ := hsettled.answered
  have hh : ((running config).serve (invocation config.functionName argv)).handler.reporting =
      .standardError := by
    rw [hsettled.handler]
    rfl
  rw [run, h]
  simp only [runConfigured_eq, ofReport, he, Report.diagnosticsIn, hh, if_true, hc]
  simp

/-- The process ends with success and writes these bytes. -/
structure Delivers (env : Environment) (config : Config) (argv : List ByteArray) (bytes : ByteArray) :
    Prop where
  code : (run env argv).code = 0
  out : (run env argv).out = bytes
  err : (run env argv).err = warningLine env config argv

/-- The process ends with the code of an error and writes nothing. The one call that it makes is for the
fault, and what it tells besides is the diagnostic of it. -/
structure Refuses (env : Environment) (config : Config) (argv : List ByteArray) (fault : Fault) :
    Prop where
  code : (run env argv).code = config.exitCodes.error
  failed : (run env argv).code ≠ 0
  out : (run env argv).out = ByteArray.empty
  calls : ((running config).serve (invocation config.functionName argv)).calls =
    [.error fault (debugRequested argv)]
  err : (run env argv).err = warningLine env config argv ++
    fault.diagnostic (debugRequested argv) env.palette

theorem refuses_of_firstFault {fault : Fault} (h : loadConfig env = .ok config)
    (hf : FirstFault (running config) (invocation config.functionName argv) fault
      (debugRequested argv)) (hne : fault ≠ .noData) : Refuses env config argv fault := by
  have hcalls := (serve_invocation config config.functionName argv).1.error _ _ hf hne
  obtain ⟨hcode, hout⟩ := run_of_failure h hcalls nofun
  have herror : (run env argv).code = config.exitCodes.error := hcode
  refine ⟨herror, ?_, hout, hcalls, err_of_call h hcalls⟩
  rw [herror]
  exact (loadConfig_valid h).error

/-! A built-in function with a payload. Its payload is decoded and it is called, each of which may fail. -/

section

variable {b : Builtin} {payload : String} {debug : Bool} {input : b.input.Val} {fault : Fault}
  (h : loadConfig env = .ok config) (hb : b ∈ Builtin.all) (hn : config.functionName = b.name)
  (ha : Supplies payload debug argv)

include h hb hn ha

theorem delivers_of_done {output : b.output.Val}
    (hi : Decoder.standard.decode b.input payload = .ok input)
    (ho : b.function input = .done output) : Delivers env config argv (b.encoded output) := by
  have hs : Succeeds config.functionName argv b output :=
    ⟨hb, hn.symm, _, payload, input, supplies_iff.mp ha, rfl, hi, ho⟩
  obtain ⟨hcalls, hbytes⟩ := serve_of_succeeds hs
  obtain ⟨hcode, hout⟩ := run_of_call h hcalls
  refine ⟨hcode.trans (loadConfig_valid h).success, hout.trans hbytes, ?_⟩
  rw [err_of_call h hcalls]
  exact String.append_empty

theorem refuses_of_body (hne : fault ≠ .noData)
    (hf : b.function.executor.body (.ofArguments ⟨debug, some payload⟩ .standard) =
      .failed fault) : Refuses env config argv fault := by
  refine refuses_of_firstFault h ?_ hne
  rw [invocation_of_builtin hb hn.symm, debugRequested_of_supplies ha]
  exact .failed (context_of_args (supplies_iff.mp ha)) hf

theorem refuses_of_undecodable (hi : Decoder.standard.decode b.input payload = .error fault) :
    Refuses env config argv fault := by
  have hne : fault ≠ .noData := by
    obtain ⟨reason, rfl⟩ := Decoder.decodeWith_eq_error hi
    exact nofun
  exact refuses_of_body h hb hn ha hne (Executor.body_of_error _ hi)

theorem refuses_of_failed (hi : Decoder.standard.decode b.input payload = .ok input)
    (ho : b.function input = .failed fault) : Refuses env config argv fault := by
  have hg : (Context.ofArguments ⟨debug, some payload⟩ .standard).get b.input = .ok input := hi
  refine refuses_of_body h hb hn ha (Builtin.fault_ne_noData hb ho) ?_
  rw [Executor.body_of_ok _ hg, Function.executor, ho]
  rfl

theorem refuses_of_no_input (hno : ∀ input, Decoder.standard.decode b.input payload ≠ .ok input) :
    ∃ reason, Refuses env config argv (.unconvertible payload b.input.name (some reason)) := by
  cases hi : Decoder.standard.decode b.input payload with
  | ok input => exact absurd hi (hno input)
  | error fault =>
    obtain ⟨reason, rfl⟩ := Decoder.decodeWith_eq_error hi
    exact ⟨reason, refuses_of_undecodable h hb hn ha hi⟩

/-- Its process succeeds just if the payload is an input for it of which it makes a result. -/
theorem code_eq_zero_iff : (run env argv).code = 0 ↔
    ∃ input output, Decoder.standard.decode b.input payload = .ok input ∧
      b.function input = .done output := by
  constructor
  · intro hc
    have hvalid := loadConfig_valid h
    have hcode := hc.trans hvalid.success.symm
    obtain ⟨b', output, hs⟩ := (code_eq_iff h hvalid .success).mp hcode
    have hsame : b' = b := by
      have hfound := Builtin.find?_eq_some_iff.mpr ⟨hb, hn.symm⟩
      have hfound' := Builtin.find?_eq_some_iff.mpr ⟨hs.builtin, hs.named⟩
      exact Option.some.inj (hfound'.symm.trans hfound)
    subst hsame
    obtain ⟨args, payload', input, hp, hd, hi, ho⟩ := hs.computed
    cases hp.symm.trans (supplies_iff.mp ha)
    cases hd
    exact ⟨input, output, hi, ho⟩
  · rintro ⟨input, output, hi, ho⟩
    exact (delivers_of_done h hb hn ha hi ho).code

end

end OneShot.Command
