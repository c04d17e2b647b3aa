import OneShot.Fault.Config

/-! The functions of a process by name, each with the media type of its results. In JSON a media type
is a string that reads as one. -/

namespace OneShot

namespace MediaType

def readJson : Json.Reader MediaType := fun s => do
  let (text, r) ← Json.readString s
  match parse text with
  | .ok m => return (m, r)
  | .error fault => .error (.refuse (ConfigFault.message (.mediaType fault)) r)

def writeJson (m : MediaType) : List Char :=
  Json.quote m.display

end MediaType

structure Registration where
  name : String
  media : MediaType
  deriving DecidableEq

namespace Registration

structure Draft where
  name : Option String := none
  media : Option MediaType := none

def record : Json.Record Draft Registration where
  title := "struct FunctionRegistration"
  fields := [
    .make "name" true Draft.name (fun d a => { d with name := some a }) Json.readString,
    .make "media_type" false Draft.media (fun d a => { d with media := some a })
      MediaType.readJson]
  blank := {}
  finish := fun d => do
    let name ← Json.require "name" d.name
    return ⟨name, d.media.getD .json⟩

def write (r : Registration) : List Char :=
  Json.objectText [
    Json.memberText "name" (Json.quote r.name),
    Json.memberText "media_type" r.media.writeJson]

end Registration

structure FunctionRegistry where
  functions : Dictionary Registration

namespace FunctionRegistry

def empty : FunctionRegistry := ⟨.empty⟩

def register (r : FunctionRegistry) (registration : Registration) : FunctionRegistry :=
  ⟨r.functions.insert registration.name registration⟩

def find? (r : FunctionRegistry) (name : String) : Option Registration :=
  r.functions.find? name

/-- The media type of a function's results, JSON for an unknown name. -/
def mediaTypeFor (r : FunctionRegistry) (name : String) : MediaType :=
  match r.find? name with
  | some registration => registration.media
  | none => .json

def names (r : FunctionRegistry) : List String :=
  r.functions.keys

end FunctionRegistry

end OneShot
