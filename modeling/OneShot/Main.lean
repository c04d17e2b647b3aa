import OneShot.Command

/-! The program: reads the environment, runs the command, writes what it leaves. -/

namespace OneShot

def readSettings (folder : String) : IO (List (String × FileTree)) := do
  try
    let home := if folder.isEmpty then "" else folder ++ "/"
    let content ← IO.FS.readBinFile (home ++ Config.fileName)
    return [(Config.fileName, .file content)]
  catch
    | .noFileOrDirectory .. => return []
    | .inappropriateType .. => return [(Config.fileName, .folder [])]
    | .permissionDenied _ code _ =>
      return [(Config.fileName, .sealed (.system code.toNat))]
    | _ => return []

def readEnvironment : IO Command.Environment := do
  let settings ← IO.getEnv "FNRUN_HOME"
  let home ← IO.getEnv "HOME"
  let base ← IO.getEnv "XDG_CONFIG_HOME"
  let user := match base, home with
    | some base, _ => some (base ++ "/fnrun")
    | none, some home => some (home ++ "/.config/fnrun")
    | none, none => none
  let function ← IO.getEnv "FNRUN_FUNCTION"
  let logFilter ← IO.getEnv "FNRUN_LOG"
  let noColor ← IO.getEnv "NO_COLOR"
  let cliColor ← IO.getEnv "CLICOLOR"
  let force ← IO.getEnv "CLICOLOR_FORCE"
  let terminal ← (← IO.getStdout).isTty
  let named ← match settings with
    | some folder => readSettings folder
    | none => pure []
  let current ← readSettings "."
  let own ← match user with
    | some folder => readSettings folder
    | none => pure []
  return {
    files := .folder [("named", .folder named), ("current", .folder current), ("user", .folder own)]
    settings := settings.map fun _ => ["named"]
    current := ["current"]
    user := user.map fun _ => ["user"]
    function := function.map String.toUTF8
    logFilter := logFilter
    palette := Command.palette noColor cliColor force terminal }

end OneShot

def main (args : List String) : IO UInt32 := do
  let env ← OneShot.readEnvironment
  let finish := OneShot.Command.run env (args.map String.toUTF8)
  let out ← IO.getStdout
  out.write finish.out
  out.flush
  (← IO.getStderr).putStr finish.err
  return finish.code.toUInt32
