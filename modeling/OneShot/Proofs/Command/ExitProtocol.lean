import OneShot.Command
import OneShot.Proofs.Config.File
import OneShot.Proofs.Invocation.Output
import Mathlib.Data.List.DropRight

/-! A process is configured by the file of one folder. Its exit code, taken from there, says what came of
its one invocation, and what it writes is the result and nothing else. -/

namespace OneShot

theorem trim_eq_empty_iff {s : String} : (trim s).isEmpty = true ↔ s.toList.all isBlank = true := by
  rw [String.isEmpty_iff, trim, String.ofList_eq_empty_iff]
  change List.rdropWhile isBlank (s.toList.dropWhile isBlank) = [] ↔ _
  rw [List.rdropWhile_eq_nil_iff, List.all_eq_true]
  constructor
  · intro h c hc
    rw [← List.takeWhile_append_dropWhile (p := isBlank) (l := s.toList)] at hc
    rcases List.mem_append.mp hc with hc | hc
    · exact List.mem_takeWhile_imp hc
    · exact h c hc
  · intro h c hc
    exact h c ((List.dropWhile_suffix isBlank).subset hc)

namespace Builtin

theorem find?_eq_some_iff {name : String} {b : Builtin} :
    find? name = some b ↔ b ∈ all ∧ b.name = name := by
  constructor
  · intro h
    exact ⟨List.mem_of_find?_eq_some h, by simpa using List.find?_some h⟩
  · rintro ⟨h, rfl⟩
    simp only [all, List.mem_cons, List.not_mem_nil, or_false] at h
    rcases h with rfl | rfl | rfl | rfl <;> rfl

theorem fault_ne_noData {b : Builtin} (h : b ∈ all) {input : b.input.Val} {fault : Fault}
    (hf : b.function input = .failed fault) : fault ≠ .noData := by
  simp only [all, List.mem_cons, List.not_mem_nil, or_false] at h
  rcases h with rfl | rfl | rfl | rfl
  · cases hf
  · simp only [increment] at hf
    split at hf
    · cases hf
    · cases hf
      exact nofun
  · simp only [greet] at hf
    split at hf
    · cases hf
      exact nofun
    · cases hf
  · cases hf

def encoded (b : Builtin) (output : b.output.Val) : ByteArray :=
  match ConversionTable.standard.render b.output output with
  | some text => text.toUTF8
  | none => (b.output.toJson output).toUTF8

end Builtin

namespace Command

/-- The folder of the configuration, if there is one: the folder that is named, whatever is in it, else
the current one if something lies there under the name of the file, else the user's. -/
inductive Selected (env : Environment) : Option Path → Prop
  | named {folder : Path} (h : env.settings = some folder) : Selected env (some folder)
  | current {found : FileTree} (h : env.settings = none)
      (hf : env.files.lookup (env.current ++ ["function.json"]) = .ok found) :
      Selected env (some env.current)
  | user {fault : IoFault} (h : env.settings = none)
      (hf : env.files.lookup (env.current ++ ["function.json"]) = .error fault) :
      Selected env env.user

theorem selected_iff {env : Environment} {folder : Option Path} :
    Selected env folder ↔ settingsFolder env = folder := by
  rw [settingsFolder, Config.fileName]
  constructor
  · rintro (h | ⟨h, hf⟩ | ⟨h, hf⟩)
    · rw [h]
    · rw [h, hf]
      rfl
    · rw [h, hf]
      rfl
  · rintro rfl
    cases h : env.settings with
    | some folder => exact .named h
    | none =>
      cases hf : env.files.lookup (env.current ++ ["function.json"]) with
      | ok found => exact .current h hf
      | error fault => exact .user h hf

/-- The configuration of a process, or why it has none. -/
inductive Configured (env : Environment) : Except Fault Config → Prop
  | folder {folder : Path} {loaded : Except Fault Config} (h : Selected env (some folder))
      (hl : Config.Loaded env.files folder loaded) : Configured env loaded
  | nowhere (h : Selected env none) : Configured env (.ok ⟨"function", ⟨0, 1, 2⟩, none⟩)

theorem configured_settings (env : Environment) : Configured env (settings env) := by
  rw [settings]
  cases h : settingsFolder env with
  | some folder => exact .folder (selected_iff.mpr h) Config.loaded_load
  | none => exact .nowhere (selected_iff.mpr h)

theorem Configured.toOption_eq {env : Environment} {loaded : Except Fault Config}
    (h : Configured env loaded) : loaded.toOption = (settings env).toOption := by
  cases h with
  | folder h hl => rw [settings, selected_iff.mp h, hl.toOption_eq]
  | nowhere h =>
    rw [settings, selected_iff.mp h]
    rfl

/-- The name of the function to call: the one in the environment without the white space around it,
unless that is all there is. -/
def calledName (env : Environment) (config : Config) : String :=
  match env.function.bind fun bytes => String.fromUTF8? bytes with
  | some text => if text.toList.all isBlank then config.functionName else trim text
  | none => config.functionName

theorem settings_valid {env : Environment} {config : Config} (h : settings env = .ok config) :
    config.exitCodes.Valid := by
  rw [settings] at h
  split at h
  · exact Config.load_valid h
  · cases h
    exact ExitCodes.validate_eq_ok_iff.mp rfl

theorem loadConfig_of_error {env : Environment} {fault : Fault} (h : settings env = .error fault) :
    loadConfig env = .error fault := by
  rw [loadConfig, h]
  rfl

theorem loadConfig_of_ok {env : Environment} {config : Config} (h : settings env = .ok config) :
    loadConfig env = .ok { config with functionName := calledName env config } := by
  rw [loadConfig, h]
  change (match nameOverride env with
    | some name => Except.ok { config with functionName := name }
    | none => .ok config) = _
  rw [nameOverride, calledName]
  cases env.function with
  | none => rfl
  | some bytes =>
    simp only [Option.bind_some, Option.bind_eq_bind]
    cases String.fromUTF8? bytes with
    | none => rfl
    | some text =>
      simp only [Option.bind_some]
      by_cases hb : text.toList.all isBlank = true
      · rw [if_pos hb, if_pos (trim_eq_empty_iff.mpr hb)]
      · rw [if_neg hb, if_neg (mt trim_eq_empty_iff.mp hb)]

def running (config : Config) : Container :=
  { container config with phase := .running }

theorem owning_container (config : Config) :
    ∃ runner, (Runner.owning (container config) (.new [])).result = .ok runner ∧
      runner.container = running config ∧ runner.close.result = .ok () :=
  ⟨_, rfl, rfl, rfl⟩

theorem context_running (config : Config) (argv : List ByteArray) :
    (running config).context argv = Context.parse argv .standard :=
  Container.context_of_beans rfl rfl

theorem encodeValue_running (config : Config) {b : Builtin} (h : b ∈ Builtin.all)
    (output : b.output.Val) :
    (running config).encodeValue b.name b.output output = .ok (b.encoded output) := by
  simp only [Builtin.all, List.mem_cons, List.not_mem_nil, or_false] at h
  rcases h with rfl | rfl | rfl | rfl <;> rfl

def invocation (name : String) (argv : List ByteArray) : Invocation :=
  match Builtin.find? name with
  | some b => .execute argv (.new .accepting) b.function.executor
  | none => .run argv (.new .accepting) (b := .unit) fun _ =>
      .failed (.config (.unknownFunction name))

theorem dispatch_eq (runner : Runner) (name : String) (argv : List ByteArray) :
    dispatch runner name argv = runner.container.serve (invocation name argv) := by
  rw [dispatch, invocation]
  cases Builtin.find? name with
  | none => rfl
  | some b => exact (Container.serve_execute _ argv _ b.function).symm

/-- The built-in function of a name gives an output on the payload of the arguments. -/
structure Succeeds (name : String) (argv : List ByteArray) (b : Builtin) (output : b.output.Val) :
    Prop where
  builtin : b ∈ Builtin.all
  named : b.name = name
  computed : ∃ args payload input, Arguments.parse argv = .ok args ∧ args.data = some payload ∧
    Decoder.standard.decode b.input payload = .ok input ∧ b.function input = .done output

/-- There is a built-in function of a name, and the arguments have no payload for it. -/
structure LacksPayload (name : String) (argv : List ByteArray) : Prop where
  builtin : ∃ b ∈ Builtin.all, b.name = name
  absent : ∃ args, Arguments.parse argv = .ok args ∧ args.data = none

/-- What a process under a configuration tells its host. -/
structure Protocol (config : Config) (argv : List ByteArray) (finish : Finish) : Prop where
  codes : config.exitCodes.Valid
  success : finish.code = 0 ↔ ∃ b output, Succeeds config.functionName argv b output
  noData : finish.code = config.exitCodes.noData ↔ LacksPayload config.functionName argv
  error : finish.code = config.exitCodes.error ↔
    (¬ ∃ b output, Succeeds config.functionName argv b output) ∧
      ¬ LacksPayload config.functionName argv
  silent : finish.code ≠ 0 → finish.out = ByteArray.empty
  result : ∀ b output, Succeeds config.functionName argv b output →
    (container config).encodeValue config.functionName b.output output = .ok finish.out ∧
      finish.out = b.encoded output

section

variable {config : Config} {name : String} {argv : List ByteArray}

theorem invocation_of_builtin {b : Builtin} (h : b ∈ Builtin.all) (hn : b.name = name) :
    invocation name argv = .execute argv (.new .accepting) b.function.executor := by
  rw [invocation, Builtin.find?_eq_some_iff.mpr ⟨h, hn⟩]

theorem context_of_args {args : Arguments} (h : Arguments.parse argv = .ok args) :
    (running config).context argv = .ok (.ofArguments args .standard) := by
  rw [context_running, Context.parse, h]

theorem firstFault_of_lacksPayload (h : LacksPayload name argv) :
    ∃ debug, FirstFault (running config) (invocation name argv) .noData debug := by
  obtain ⟨⟨b, hb, hn⟩, args, hp, hd⟩ := h
  have hg : (Context.ofArguments args .standard).get b.input = .error .noData := by
    simp only [Context.get, Context.ofArguments, hd]
  rw [invocation_of_builtin hb hn]
  exact ⟨_, .failed (context_of_args hp) (Executor.body_of_error _ hg)⟩

theorem firstFault_of_others (hs : ¬ ∃ b output, Succeeds name argv b output)
    (hl : ¬ LacksPayload name argv) :
    ∃ fault debug, fault ≠ .noData ∧
      FirstFault (running config) (invocation name argv) fault debug := by
  cases hp : Arguments.parse argv with
  | error fault =>
    have hx : (running config).context argv = .error (.arguments fault) := by
      rw [context_running, Context.parse, hp]
    refine ⟨.arguments fault, false, by simp, ?_⟩
    rw [invocation]
    split <;> exact .context (Container.context_eq_error_iff.mp hx)
  | ok args =>
    have hx : (running config).context argv = .ok (.ofArguments args .standard) :=
      context_of_args hp
    cases hf : Builtin.find? name with
    | none =>
      refine ⟨.config (.unknownFunction name), args.debug, by simp, ?_⟩
      rw [invocation, hf]
      exact .failed hx rfl
    | some b =>
      obtain ⟨hb, hn⟩ := Builtin.find?_eq_some_iff.mp hf
      rw [invocation_of_builtin hb hn]
      cases hd : args.data with
      | none => exact absurd ⟨⟨b, hb, hn⟩, args, hp, hd⟩ hl
      | some payload =>
        have hg : (Context.ofArguments args .standard).get b.input =
            Decoder.standard.decode b.input payload := by
          simp only [Context.get, Context.ofArguments, hd]
        cases hi : Decoder.standard.decode b.input payload with
        | error fault =>
          have hne : fault ≠ .noData := by
            obtain ⟨reason, rfl⟩ := Decoder.decodeWith_eq_error hi
            simp
          exact ⟨fault, args.debug, hne, .failed hx (Executor.body_of_error _ (hg.trans hi))⟩
        | ok input =>
          have hbody := Executor.body_of_ok b.function.executor (hg.trans hi)
          cases ho : b.function input with
          | done output => exact absurd ⟨b, output, hb, hn, args, payload, input, hp, hd, hi, ho⟩ hs
          | failed fault =>
            refine ⟨fault, args.debug, Builtin.fault_ne_noData hb ho, .failed hx ?_⟩
            rw [hbody, Function.executor, ho]
            rfl
          | panicked panic =>
            refine ⟨.panicked panic.message, args.debug, by simp, .panicked hx ?_⟩
            rw [hbody, Function.executor, ho]
            rfl

theorem serve_invocation (config : Config) (name : String) (argv : List ByteArray) :
    let report := (running config).serve (invocation name argv)
    Settled (running config) (invocation name argv) report ∧
      (report.calls ≠ [.success] → report.sink = .new .accepting) := by
  have hrun : ∃ (b : DataType) (body : Body b),
      invocation name argv = .run argv (.new .accepting) body := by
    rw [invocation]
    split <;> exact ⟨_, _, rfl⟩
  obtain ⟨b, body, hi⟩ := hrun
  rw [hi]
  refine ⟨Container.serve_settled (Container.not_writePanic_of_accepts rfl argv body), ?_⟩
  intro hc
  exact (Container.invoke_allOrNothing rfl argv body).nothing (fun hx => hc hx.1) nofun

theorem serve_of_succeeds {b : Builtin} {output : b.output.Val}
    (h : Succeeds config.functionName argv b output) :
    let report := (running config).serve (invocation config.functionName argv)
    report.calls = [.success] ∧ report.sink.bytes = b.encoded output := by
  obtain ⟨hb, hn, args, payload, input, hp, hd, hi, ho⟩ := h
  rw [invocation_of_builtin hb hn]
  have hg : (Context.ofArguments args .standard).get b.input = .ok input := by
    simp only [Context.get, Context.ofArguments, hd]
    exact hi
  have ha : AllOrNothing (running config) (running config).functionName
      (b.function.executor.Gives (running config) argv) (.new .accepting)
      ((running config).serve (.execute argv (.new .accepting) b.function.executor)) := by
    rw [← Container.gives_body]
    exact Container.invoke_allOrNothing rfl argv b.function.executor.body
  have hv : b.function.executor.Gives (running config) argv output :=
    ⟨_, input, context_of_args hp, hg, ho⟩
  have he : (running config).encodeValue (running config).functionName b.output output =
      .ok (b.encoded output) := by
    change (running config).encodeValue config.functionName b.output output = _
    rw [← hn]
    exact encodeValue_running config hb output
  have hc := ha.delivered output _ hv he nofun
  obtain ⟨bytes, he', hbytes⟩ := ha.all hc output hv
  rw [he] at he'
  cases he'
  exact ⟨hc, hbytes.trans ByteArray.empty_append⟩

/-- The process ends with the code of the one call of its invocation, and writes what the invocation
wrote. -/
theorem run_of_call {env : Environment} {call : ExitCall} (h : loadConfig env = .ok config)
    (hc : ((running config).serve (invocation config.functionName argv)).calls = [call]) :
    (run env argv).code = (Exit.ofStatus call.status config.exitCodes).code ∧
      (run env argv).out =
        ((running config).serve (invocation config.functionName argv)).sink.bytes := by
  obtain ⟨runner, ho, hcontainer, hclose⟩ := owning_container config
  obtain ⟨call', hc', he⟩ := (serve_invocation config config.functionName argv).1.answered
  rw [hc'] at hc
  cases hc
  rw [run, h]
  simp only [runConfigured, ho, hclose, dispatch_eq, hcontainer, ofReport, he, and_true]
  rfl

theorem run_of_failure {env : Environment} {call : ExitCall} (h : loadConfig env = .ok config)
    (hc : ((running config).serve (invocation config.functionName argv)).calls = [call])
    (hne : call ≠ .success) :
    (run env argv).code = (Exit.ofStatus call.status config.exitCodes).code ∧
      (run env argv).out = ByteArray.empty := by
  obtain ⟨hcode, hout⟩ := run_of_call h hc
  have hsink := (serve_invocation config config.functionName argv).2 fun hs => by
    rw [hc] at hs
    exact hne (List.cons.inj hs).1
  refine ⟨hcode, ?_⟩
  rw [hout, hsink]
  rfl

/-- What an exit status of the process tells of its invocation. -/
def Means (name : String) (argv : List ByteArray) : ExitStatus → Prop
  | .success => ∃ b output, Succeeds name argv b output
  | .noData => LacksPayload name argv
  | .failure => (¬ ∃ b output, Succeeds name argv b output) ∧ ¬ LacksPayload name argv

theorem exists_means (name : String) (argv : List ByteArray) : ∃ status, Means name argv status := by
  by_cases hs : ∃ b output, Succeeds name argv b output
  · exact ⟨.success, hs⟩
  · by_cases hl : LacksPayload name argv
    · exact ⟨.noData, hl⟩
    · exact ⟨.failure, hs, hl⟩

theorem run_of_means {env : Environment} {status : ExitStatus} (h : loadConfig env = .ok config)
    (hm : Means config.functionName argv status) :
    (run env argv).code = (Exit.ofStatus status config.exitCodes).code ∧
      (status ≠ .success → (run env argv).out = ByteArray.empty) := by
  have hsettled := (serve_invocation config config.functionName argv).1
  cases status with
  | success =>
    obtain ⟨b, output, hs⟩ := hm
    exact ⟨(run_of_call h (serve_of_succeeds hs).1).1, fun hne => absurd rfl hne⟩
  | noData =>
    obtain ⟨debug, hf⟩ := firstFault_of_lacksPayload hm
    obtain ⟨hcode, hout⟩ := run_of_failure h (hsettled.noData debug hf) nofun
    exact ⟨hcode, fun _ => hout⟩
  | failure =>
    obtain ⟨fault, debug, hne, hf⟩ := firstFault_of_others hm.1 hm.2
    obtain ⟨hcode, hout⟩ := run_of_failure h (hsettled.error fault debug hf hne) nofun
    exact ⟨hcode, fun _ => hout⟩

/-- Codes that can be told apart tell what came of the invocation. -/
theorem code_eq_iff {env : Environment} (h : loadConfig env = .ok config)
    (hcodes : config.exitCodes.Valid) (status : ExitStatus) :
    (run env argv).code = (Exit.ofStatus status config.exitCodes).code ↔
      Means config.functionName argv status := by
  constructor
  · intro hc
    obtain ⟨other, hm⟩ := exists_means config.functionName argv
    rw [(run_of_means h hm).1, hcodes.ofStatus_code_inj] at hc
    exact hc ▸ hm
  · exact fun hm => (run_of_means h hm).1

theorem protocol_of_loaded {env : Environment} (h : loadConfig env = .ok config)
    (hcodes : config.exitCodes.Valid) : Protocol config argv (run env argv) := by
  refine ⟨hcodes, ?success, code_eq_iff h hcodes .noData, code_eq_iff h hcodes .failure, ?silent,
    ?result⟩
  case success =>
    rw [← hcodes.success]
    exact code_eq_iff h hcodes .success
  case silent =>
    intro hne
    obtain ⟨status, hm⟩ := exists_means config.functionName argv
    obtain ⟨hcode, hout⟩ := run_of_means h hm
    refine hout ?_
    rintro rfl
    exact hne (hcode.trans hcodes.success)
  case result =>
    intro b output hs
    obtain ⟨hc, hbytes⟩ := serve_of_succeeds hs
    have hout : (run env argv).out = b.encoded output := (run_of_call h hc).2.trans hbytes
    rw [hout, ← hs.named]
    exact ⟨encodeValue_running config hs.builtin output, rfl⟩

theorem run_of_settings_error {env : Environment} {fault : Fault} (h : settings env = .error fault) :
    (run env argv).code = 1 ∧ (run env argv).out = ByteArray.empty := by
  rw [run, loadConfig_of_error h]
  exact ⟨rfl, rfl⟩

end

/-- A process has a configuration or the reason why there is none. Without one it fails and writes
nothing; with one it follows the protocol of its codes, for the function that it is told to call. -/
theorem run_protocol (env : Environment) (argv : List ByteArray) :
    (∃ loaded, Configured env loaded) ∧
    ∀ loaded, Configured env loaded →
      match loaded with
      | .error _ => (run env argv).code = 1 ∧ (run env argv).out = ByteArray.empty
      | .ok config =>
        Protocol { config with functionName := calledName env config } argv (run env argv) := by
  refine ⟨⟨_, configured_settings env⟩, fun loaded hl => ?_⟩
  have ho := hl.toOption_eq
  cases h : settings env with
  | error fault =>
    rw [h] at ho
    cases loaded with
    | error => exact run_of_settings_error h
    | ok => cases ho
  | ok config =>
    rw [h] at ho
    cases loaded with
    | error => cases ho
    | ok =>
      cases ho
      have hcodes : config.exitCodes.Valid := settings_valid h
      exact protocol_of_loaded (loadConfig_of_ok h) hcodes

/-- The environment of a process that has a text for a configuration, in the folder that is named. -/
def withFile (text : List Char) : Environment :=
  ⟨.folder [("home", .folder [("function.json", .file (String.ofList text).toUTF8)])], some ["home"],
    ["work"], none, none, none, .plain⟩

/-- A process without a payload ends with the code that is given for it. One whose codes are the same
has no configuration. -/
theorem run_protocol_of_file :
    let given :=
      "\x7b\"function_name\":\"increment\",\"exit_codes\":\x7b\"error\":10,\"no_data\":11\x7d\x7d".toList
    let colliding := "\x7b\"exit_codes\":\x7b\"error\":3,\"no_data\":3\x7d\x7d".toList
    let config : Config := ⟨"increment", ⟨0, 10, 11⟩, none⟩
    let fault : Fault := .config (.exitCodes (.failuresEqual 3))
    (Configured (withFile given) (.ok config) ∧ LacksPayload "increment" [] ∧
      Protocol config [] (run (withFile given) []) ∧ (run (withFile given) []).code = 11) ∧
    Configured (withFile colliding) (.error fault) ∧ (run (withFile colliding) []).code = 1 ∧
      (run (withFile colliding) []).out = ByteArray.empty := by
  have hgiven : Json.whole Config.record.read (String.ofList
      "\x7b\"function_name\":\"increment\",\"exit_codes\":\x7b\"error\":10,\"no_data\":11\x7d\x7d".toList) =
        .ok ⟨"increment", ⟨0, 10, 11⟩, none⟩ := by
    rfl
  have hcolliding : Json.whole Config.record.read (String.ofList
      "\x7b\"exit_codes\":\x7b\"error\":3,\"no_data\":3\x7d\x7d".toList) =
        .ok ⟨"function", ⟨0, 3, 3⟩, none⟩ := by
    rfl
  intro given colliding config fault
  obtain ⟨_, hp, ht⟩ := Config.whole_eq_ok_iff.mp hgiven
  obtain ⟨_, hp', ht'⟩ := Config.whole_eq_ok_iff.mp hcolliding
  have hc : Configured (withFile given) (.ok config) :=
    .folder (.named rfl) (.valid rfl hp ht ⟨rfl, by decide, by decide, by decide⟩)
  have hc' : Configured (withFile colliding) (.error fault) :=
    .folder (.named rfl) (.invalid rfl hp' ht' (.equal rfl (by decide) rfl))
  have hl : LacksPayload "increment" [] :=
    ⟨⟨_, List.mem_cons_of_mem _ List.mem_cons_self, rfl⟩, _, rfl, rfl⟩
  have h := (run_protocol (withFile given) []).2 _ hc
  obtain ⟨hcode, hout⟩ := (run_protocol (withFile colliding) []).2 _ hc'
  exact ⟨⟨hc, hl, h, h.noData.mpr hl⟩, hc', hcode, hout⟩

end Command

end OneShot
