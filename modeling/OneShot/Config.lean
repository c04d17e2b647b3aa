import OneShot.FileTree
import OneShot.Fault

/-! The configuration of a function process, kept in `function.json`. Members that the file leaves
out have defaults, and no exit codes that a host could not tell apart are ever loaded. -/

namespace OneShot

structure Config where
  functionName : String
  exitCodes : ExitCodes
  logFilter : Option String
  deriving DecidableEq

namespace Config

def standard : Config := ⟨"function", .standard, none⟩

instance : Inhabited Config := ⟨standard⟩

structure Draft where
  functionName : Option String := none
  exitCodes : Option ExitCodes := none
  logFilter : Option (Option String) := none

def record : Json.Record Draft Config where
  title := "struct FunctionConfig"
  fields := [
    .make "function_name" false Draft.functionName (fun d a => { d with functionName := some a })
      Json.readString,
    .make "exit_codes" false Draft.exitCodes (fun d a => { d with exitCodes := some a })
      ExitCodes.record.read,
    .make "log_filter" false Draft.logFilter (fun d a => { d with logFilter := some a })
      (Json.readOption Json.readString)]
  blank := {}
  finish := fun d => .ok
    ⟨d.functionName.getD standard.functionName, d.exitCodes.getD standard.exitCodes,
      d.logFilter.getD standard.logFilter⟩

def filterText (filter : Option String) : List Char :=
  match filter with
  | some filter => Json.quote filter
  | none => Json.nullText

def write (c : Config) : List Char :=
  Json.objectText [
    Json.memberText "function_name" (Json.quote c.functionName),
    Json.memberText "exit_codes" c.exitCodes.write,
    Json.memberText "log_filter" (filterText c.logFilter)]

def fileText (c : Config) : List Char :=
  Json.objectLines 0 [
    ("function_name", Json.quote c.functionName),
    ("exit_codes", Json.objectLines 1 c.exitCodes.members),
    ("log_filter", filterText c.logFilter)]

def fileName : String := "function.json"

def ofBytes (content : ByteArray) : Except Fault Config :=
  match String.fromUTF8? content with
  | none => .error (.io .notUtf8)
  | some text =>
    match Json.whole record.read text with
    | .error flaw => .error (.serialization flaw)
    | .ok config =>
      match config.exitCodes.validate with
      | .error fault => .error (.config (.exitCodes fault))
      | .ok () => .ok config

/-- The configuration in a folder. Without a file it is the standard one. -/
def load (tree : FileTree) (folder : Path) : Except Fault Config :=
  match tree.lookup (folder ++ [fileName]) with
  | .error _ => .ok standard
  | .ok (.folder _) => .error (.io .isADirectory)
  | .ok (.sealed fault) => .error (.io fault)
  | .ok (.file content) => ofBytes content

/-- Puts the configuration into a folder, which is made if it is not there. A fault may leave some of
the folders made. -/
def save (c : Config) (tree : FileTree) (folder : Path) : Except Fault Unit × FileTree :=
  let (made, tree) :=
    if (tree.lookup folder).isOk then (.ok (), tree) else tree.makeFolders folder
  match made with
  | .error fault => (.error (.io fault), tree)
  | .ok () =>
    match tree.write (String.ofList c.fileText).toUTF8 (folder ++ [fileName]) with
    | .ok tree => (.ok (), tree)
    | .error fault => (.error (.io fault), tree)

end Config

end OneShot
