import OneShot.Dictionary
import OneShot.Text.Blank

/-! Media types: a type and a subtype, and parameters that do not count when two are matched. Reading
normalises, so that texts differing in case, order or white space read alike. -/

namespace OneShot

structure MediaType where
  /-- The type and the subtype with the slash between them, in lower case. -/
  essence : String
  params : Dictionary String
  deriving DecidableEq

namespace MediaType

inductive Fault
  | badEssence (text : String)
  | badParameter (parameter : String)

def Fault.message : Fault → String
  | badEssence text => "Invalid media type: " ++ text
  | badParameter parameter => "Invalid media type parameter: " ++ parameter

def json : MediaType := ⟨"application/json", Dictionary.empty⟩

def text : MediaType := ⟨"text/plain", Dictionary.empty⟩

/-- Whether the media types agree but for their parameters. -/
def agrees (m n : MediaType) : Bool :=
  m.essence == n.essence

/-- The value of a parameter, its name in any case. -/
def param? (m : MediaType) (name : String) : Option String :=
  m.params.find? (String.ofList (name.toList.map Char.toLower))

def isEssence (s : List Char) : Bool :=
  match cutFirst '/' s with
  | some (l, r) => !l.isEmpty && !r.isEmpty && !r.contains '/'
  | none => false

/-- Adds a parameter from the text between two semicolons. Blank text adds nothing. -/
def addParam (params : Dictionary String) (segment : List Char) :
    Except Fault (Dictionary String) :=
  let segment := strip isBlank segment
  if segment.isEmpty then .ok params
  else match cutFirst '=' segment with
    | none => .error (.badParameter (String.ofList segment))
    | some (name, value) =>
      let name := (strip isBlank name).map Char.toLower
      let value := strip (fun c => c == '"') (strip isBlank value)
      .ok (params.insert (String.ofList name) (String.ofList value))

/-- Adds parameters from left to right. The last value of a name stays. -/
def addParams (params : Dictionary String) : List (List Char) → Except Fault (Dictionary String)
  | [] => .ok params
  | segment :: rest =>
    match addParam params segment with
    | .ok params => addParams params rest
    | .error fault => .error fault

def parse (s : String) : Except Fault MediaType :=
  match cutAt (fun c => c == ';') s.toList with
  | [] => .error (.badEssence s)
  | first :: rest =>
    let essence := (strip isBlank first).map Char.toLower
    if isEssence essence then
      (addParams Dictionary.empty rest).map fun params => ⟨String.ofList essence, params⟩
    else .error (.badEssence s)

def display (m : MediaType) : String :=
  m.params.entries.foldl (fun s e => s ++ ";" ++ e.1 ++ "=" ++ e.2) m.essence

end MediaType

end OneShot
