import OneShot.Fault

/-! The report of a failed invocation: a line, or with `--debug` the kind of the fault, its causes and
its full form as well. The word at its head may be coloured. A host shows a report as a diagnostic: of
what is wrong with the arguments the first line alone, and no places in JSON text. -/

namespace OneShot

def chainDetail (text : String) : List String → String
  | [] => "Chain \x7b message: " ++ quoted text ++ ", cause: None \x7d"
  | cause :: causes =>
    "Chain \x7b message: " ++ quoted text ++ ", cause: Some(" ++ chainDetail cause causes ++ ") \x7d"

def FunctionFault.detail : FunctionFault → String
  | plain text => quoted text
  | chain text causes => chainDetail text causes

def MediaType.detail (m : MediaType) : String :=
  "MediaType \x7b essence: " ++ quoted m.essence ++ ", params: \x7b" ++
    String.intercalate ", " (m.params.entries.map fun e => quoted e.1 ++ ": " ++ quoted e.2) ++
    "\x7d \x7d"

def Fault.detail : Fault → String
  | noData => "NoData"
  | unconvertible data typeName reason =>
    "Unconvertible \x7b data: " ++ quoted data ++ ", target: " ++ quoted typeName ++ ", reason: " ++
      (match reason with
        | none => "None"
        | some reason => "Some(" ++ quoted reason.text ++ ")") ++ " \x7d"
  | function fault => "Function(" ++ fault.detail ++ ")"
  | panicked text => "Panicked(" ++ quoted text ++ ")"
  | arguments fault => "Args(" ++ fault.detail ++ ")"
  | codecNotFound media => "CodecNotFound(" ++ media.detail ++ ")"
  | beanNotFound typeName => "BeanNotFound(" ++ quoted typeName ++ ")"
  | container fault => "Container(" ++ quoted fault.text ++ ")"
  | config fault => "Config(" ++ quoted fault.text ++ ")"
  | io fault => "Io(" ++ fault.detail ++ ")"
  | serialization flaw => "Serialization(Error(" ++ quoted flaw.message ++ "))"

inductive Palette
  | plain
  | colored
  deriving DecidableEq, Repr

namespace Palette

def paint (palette : Palette) (color : String) (word : String) : String :=
  match palette with
  | plain => word
  | colored => "\x1b[1;" ++ color ++ "m" ++ word ++ "\x1b[0m"

def errorHead (palette : Palette) : String :=
  palette.paint "31" "Error:"

def warningHead (palette : Palette) : String :=
  palette.paint "33" "Warning:"

end Palette

namespace Fault

def fullMessage : Fault → String
  | arguments fault => "Invalid arguments: " ++ fault.page
  | serialization flaw => "Serialization error: " ++ flaw.report
  | fault => fault.message

def fullCauses : Fault → List String
  | arguments fault => [fault.page]
  | serialization flaw => [flaw.report]
  | fault => fault.causes

def fullDetail : Fault → String
  | serialization flaw =>
    "Serialization(Error(" ++ quoted flaw.message ++ ", line: " ++
      String.ofList (decimal flaw.position.line) ++ ", column: " ++
      String.ofList (decimal flaw.position.column) ++ "))"
  | fault => fault.detail

def headLine (fault : Fault) (message : String) (debug : Bool) (palette : Palette) : String :=
  palette.errorHead ++ (if debug then " [" ++ fault.kind ++ "] " else " ") ++ message ++ "\n"

def furtherLines (fault : Fault) (causes : List String) (detail : String) : String :=
  (match fault with
    | unconvertible _ _ (some reason) => "  reason: " ++ reason.text ++ "\n"
    | _ => "") ++
  String.join (causes.map fun cause => "  caused by: " ++ cause ++ "\n") ++
  "  detail: " ++ detail ++ "\n"

def report (fault : Fault) (debug : Bool) (palette : Palette) : String :=
  fault.headLine fault.fullMessage debug palette ++
    if debug then fault.furtherLines fault.fullCauses fault.fullDetail else ""

def diagnostic (fault : Fault) (debug : Bool) (palette : Palette) : String :=
  fault.headLine fault.message debug palette ++
    match fault with
    | arguments _ => ""
    | fault => if debug then fault.furtherLines fault.causes fault.detail else ""

end Fault

def noDataNotice (palette : Palette) : String :=
  palette.errorHead ++ " no data supplied, pass the input with --data <DATA>\n"

end OneShot
