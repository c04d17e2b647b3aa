import OneShot.Text.Escapes
import OneShot.Text.Quoted

/-! What can be wrong with the arguments of an invocation, and how it is said: in a line, or on a page
with the option that was perhaps meant and with the usage. -/

namespace OneShot

inductive ArgumentOption
  | debug
  | data
  deriving DecidableEq, Repr

namespace ArgumentOption

def name : ArgumentOption → String
  | debug => "debug"
  | data => "data"

def flag (option : ArgumentOption) : String :=
  "--" ++ option.name

end ArgumentOption

inductive Usage
  | options
  | named (list : List ArgumentOption)
  | either
  deriving DecidableEq, Repr

namespace Usage

def bold (s : String) : String :=
  "\x1b[1m" ++ s ++ "\x1b[0m"

def styledOption (option : ArgumentOption) : String :=
  bold option.flag ++
    match option with
    | .debug => ""
    | .data => " <DATA>"

def styled (usage : Usage) : String :=
  "\x1b[1m\x1b[4mUsage:\x1b[0m " ++ bold "fnrun" ++ " " ++
    match usage with
    | options => "[OPTIONS]"
    | named list => String.intercalate " " (list.map styledOption)
    | either => "<--debug|--data <DATA>>"

def line (usage : Usage) : String :=
  Escapes.visible usage.styled

end Usage

inductive ArgumentFault
  | unknown (argument : String) (meant : Option ArgumentOption) (usage : Usage)
  | missingValue
  | debugRepeated
  | dataRepeated
  | excessValue (value : String) (usage : Usage)
  | notUtf8

namespace ArgumentFault

def stray (argument : String) : ArgumentFault :=
  unknown argument none .options

/-- The words for a fault. What the caller wrote is shown without terminal escapes. -/
def text : ArgumentFault → String
  | unknown argument _ _ => "unexpected argument '" ++ Escapes.visible argument ++ "' found"
  | missingValue => "a value is required for '--data <DATA>' but none was supplied"
  | debugRepeated => "the argument '--debug' cannot be used multiple times"
  | dataRepeated => "the argument '--data <DATA>' cannot be used multiple times"
  | excessValue value _ =>
    "unexpected value '" ++ Escapes.visible value ++ "' for '--debug' found; no more were expected"
  | notUtf8 => "invalid UTF-8 was detected in one or more arguments"

def firstLine (s : String) : String :=
  let line := s.toList.takeWhile fun c => c != '\n'
  if line.length < s.length ∧ line.getLast? = some '\r' then String.ofList line.dropLast
  else String.ofList line

/-- The line for a fault. An argument over several lines is shown up to the first line end. -/
def message (fault : ArgumentFault) : String :=
  "error: " ++ firstLine fault.text

def meant : ArgumentFault → Option ArgumentOption
  | unknown _ meant _ => meant
  | _ => none

def usage : ArgumentFault → Option Usage
  | unknown _ _ usage => some usage
  | missingValue => none
  | debugRepeated | dataRepeated | notUtf8 => some .options
  | excessValue _ usage => some usage

def page (fault : ArgumentFault) : String :=
  "error: " ++ fault.text ++
    (match fault.meant with
      | some option => "\n\n  tip: a similar argument exists: '" ++ option.flag ++ "'"
      | none => "") ++
    (match fault.usage with
      | some usage => "\n\n" ++ usage.line
      | none => "") ++ "\n"

def formName : ArgumentFault → String
  | unknown .. => "UnknownArgument"
  | missingValue => "InvalidValue"
  | debugRepeated | dataRepeated => "ArgumentConflict"
  | excessValue .. => "TooManyValues"
  | notUtf8 => "InvalidUtf8"

def subject : ArgumentFault → List (String × String)
  | unknown argument _ _ => [("InvalidArg", argument)]
  | missingValue => [("InvalidArg", "--data <DATA>"), ("InvalidValue", "")]
  | debugRepeated => [("InvalidArg", "--debug"), ("PriorArg", "--debug")]
  | dataRepeated => [("InvalidArg", "--data <DATA>"), ("PriorArg", "--data <DATA>")]
  | excessValue value _ => [("InvalidArg", "--debug"), ("InvalidValue", value)]
  | notUtf8 => []

def form (name : String) (fields : List (String × String)) : String :=
  name ++ " \x7b " ++ String.intercalate ", " (fields.map fun f => f.1 ++ ": " ++ f.2) ++ " \x7d"

def styleForm (color effects : String) : String :=
  form "Style" [
    ("fg", if color = "" then "None" else "Some(Ansi(" ++ color ++ "))"),
    ("bg", "None"),
    ("underline", "None"),
    ("effects", "Effects(" ++ effects ++ ")")]

def stylesForm : String :=
  form "Styles" [
    ("header", styleForm "" "BOLD | UNDERLINE"),
    ("error", styleForm "Red" "BOLD"),
    ("usage", styleForm "" "BOLD | UNDERLINE"),
    ("literal", styleForm "" "BOLD"),
    ("placeholder", styleForm "" ""),
    ("valid", styleForm "Green" ""),
    ("invalid", styleForm "Yellow" ""),
    ("context", styleForm "" ""),
    ("context_value", "None")]

def textForm (s : String) : String :=
  "String(" ++ quoted s ++ ")"

def context (fault : ArgumentFault) : List (String × String) :=
  fault.subject.map (fun (name, s) => (name, textForm s)) ++
    (match fault with
      | missingValue => [("ValidValue", "Strings([])")]
      | _ => []) ++
    (match fault.usage with
      | some usage => [("Usage", "StyledStr(StyledStr(" ++ quoted usage.styled ++ "))")]
      | none => []) ++
    (match fault.meant with
      | some option => [("SuggestedArg", textForm option.flag)]
      | none => [])

def detail (fault : ArgumentFault) : String :=
  let list (texts : List String) := "[" ++ String.intercalate ", " texts ++ "]"
  form "ErrorInner" [
    ("kind", fault.formName),
    ("context", form "FlatMap" [
      ("keys", list (fault.context.map Prod.fst)),
      ("values", list (fault.context.map Prod.snd))]),
    ("message", "None"),
    ("source", "None"),
    ("help_flag", "None"),
    ("styles", stylesForm),
    ("color_when", "Auto"),
    ("color_help_when", "Auto"),
    ("backtrace", "None")]

end ArgumentFault

end OneShot
