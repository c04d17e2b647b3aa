import OneShot.Builtin
import OneShot.LogFilter
import OneShot.Runner

/-! The command line: a process that runs one of its built-in functions on the payload of its
arguments. What it finds in its environment is a value, and so is what it leaves behind. -/

namespace OneShot.Command

/-- The environment of the process: the files, the folders where a configuration may be, and the
variables that it reads. -/
structure Environment where
  files : FileTree
  settings : Option Path
  current : Path
  user : Option Path
  function : Option ByteArray
  logFilter : Option String
  palette : Palette

structure Finish where
  code : UInt8
  out : ByteArray
  err : String

/-- The folder of the configuration: the one named for it, else the current one if it has a
configuration, else the user's. -/
def settingsFolder (env : Environment) : Option Path :=
  match env.settings with
  | some folder => some folder
  | none =>
    if (env.files.lookup (env.current ++ [Config.fileName])).isOk then some env.current
    else env.user

/-- The function name in the environment, unless it is blank or no text. -/
def nameOverride (env : Environment) : Option String := do
  let bytes ← env.function
  let text ← String.fromUTF8? bytes
  let name := trim text
  if name.isEmpty then none else some name

def settings (env : Environment) : Except Fault Config :=
  match settingsFolder env with
  | some folder => Config.load env.files folder
  | none => .ok .standard

def loadConfig (env : Environment) : Except Fault Config := do
  let config ← settings env
  match nameOverride env with
  | some name => return { config with functionName := name }
  | none => return config

/-- Whether the arguments ask for full diagnostics. Arguments that cannot be read do not. -/
def debugRequested (argv : List ByteArray) : Bool :=
  match Arguments.parse argv with
  | .ok args => args.debug
  | .error _ => false

def container (config : Config) : Container :=
  (Container.standard.register .functions Builtin.registry).register .config config

/-- Runs the built-in function of a name. An unknown name is reported whether or not there is a
payload. -/
def dispatch (runner : Runner) (name : String) (argv : List ByteArray) : Report :=
  match Builtin.find? name with
  | some b => runner.execute argv (Sink.new .accepting) b.function
  | none =>
    runner.run argv (Sink.new .accepting) (b := .unit) fun _ =>
      .failed (.config (.unknownFunction name))

def errorLine (env : Environment) (fault : Fault) : String :=
  fault.diagnostic false env.palette

def warningLine (env : Environment) (config : Config) (argv : List ByteArray) : String :=
  match LogFilter.warning? env.logFilter config.logFilter (debugRequested argv) with
  | some fault => env.palette.warningHead ++ " " ++ fault.message ++ "\n"
  | none => ""

def ofReport (report : Report) (palette : Palette) : Finish :=
  match report.ending with
  | .exited _ exit => ⟨exit.code, report.sink.bytes, report.diagnosticsIn .standardError palette⟩
  | .panicked _ => ⟨101, report.sink.bytes, ""⟩

/-- Runs the process under a configuration. A container that does not close turns success into
failure. -/
def runConfigured (env : Environment) (config : Config) (argv : List ByteArray) : Finish :=
  match (Runner.owning (container config) (.new [])).result with
  | .error fault => ⟨config.exitCodes.error, ByteArray.empty, errorLine env fault⟩
  | .ok runner =>
    let report := dispatch runner config.functionName argv
    let finish := ofReport report env.palette
    match runner.close.result with
    | .ok () => finish
    | .error fault =>
      let code := match report.ending with
        | .exited _ exit => if exit.isSuccess then config.exitCodes.error else exit.code
        | .panicked _ => finish.code
      { finish with code := code, err := finish.err ++ errorLine env fault }

def run (env : Environment) (argv : List ByteArray) : Finish :=
  match loadConfig env with
  | .error fault => ⟨ExitCodes.standard.error, ByteArray.empty, errorLine env fault⟩
  | .ok config =>
    let finish := runConfigured env config argv
    { finish with err := warningLine env config argv ++ finish.err }

def switch? (setting : Option String) : Option Bool :=
  setting.map fun v => v != "0"

/-- The palette that the colour variables and the terminal ask for. Forcing colour comes first. -/
def palette (noColor cliColor force : Option String) (terminal : Bool) : Palette :=
  if switch? force = some true then .colored
  else if noColor.isSome then .plain
  else if (switch? cliColor).getD true && terminal then .colored
  else .plain

end OneShot.Command
