import OneShot.Arguments.Fault
import OneShot.Text.Likeness
import OneShot.Text.Utf8

/-! The arguments of an invocation: a flag `--debug` and an option `--data` with a value. Arguments are
byte strings. The value of the option is whatever argument follows it, and it is checked when the next
known option is met or the arguments end; what is not an option is refused at once. -/

namespace OneShot

structure Arguments where
  debug : Bool
  data : Option String
  deriving DecidableEq

namespace Arguments

abbrev Bytes := List UInt8

/-- What has been read so far; `pending` is a value still to be checked. -/
structure Progress where
  debug : Bool
  data : Option String
  pending : Option Bytes

def showBytes (b : Bytes) : String :=
  Utf8.lossy ⟨b.toArray⟩

def utf8 (s : String) : Bytes :=
  s.toUTF8.data.toList

def Progress.setData (p : Progress) (value : Bytes) : Except ArgumentFault Progress :=
  if p.data.isSome then .error .dataRepeated
  else match String.fromUTF8? ⟨value.toArray⟩ with
    | some text => .ok { p with data := some text }
    | none => .error .notUtf8

def Progress.settle (p : Progress) : Except ArgumentFault Progress :=
  match p.pending with
  | none => .ok p
  | some value => Progress.setData { p with pending := none } value

def Progress.setDebug (p : Progress) : Except ArgumentFault Progress := do
  let p ← p.settle
  if p.debug then .error .debugRepeated else return { p with debug := true }

inductive Step
  | next (p : Progress)
  | wantValue (p : Progress)

def attached (p : Progress) (value : Bytes) : Except ArgumentFault Step := do
  let p ← p.settle
  let p ← p.setData value
  return .next p

def cluster (p : Progress) : List Char → Bytes → Except ArgumentFault Step
  | [], [] => .ok (.next p)
  | [], invalid => .error (.stray ("-" ++ showBytes invalid))
  | c :: cs, invalid =>
    if c = 'd' then do
      let p ← p.setDebug
      cluster p cs invalid
    else if c = 'x' then
      match utf8 (String.ofList cs) ++ invalid with
      | [] => do
        let p ← p.settle
        return .wantValue p
      | 0x3D :: value => attached p value
      | value => attached p value
    else .error (.stray (String.ofList ['-', c]))

/-- The longest head of a byte string that is UTF-8, and the rest. -/
def splitUtf8 (b : Bytes) : List Char × Bytes :=
  let cut := (List.range (b.length + 1)).reverse.find? fun n =>
    (String.fromUTF8? ⟨(b.take n).toArray⟩).isSome
  let n := cut.getD 0
  (((String.fromUTF8? ⟨(b.take n).toArray⟩).getD "").toList, b.drop n)

def meant? (name : String) : Option ArgumentOption :=
  let likeness (option : ArgumentOption) := Likeness.similarity name.toList option.name.toList
  let best : ArgumentOption := if likeness .debug ≤ likeness .data then .data else .debug
  if 7 / 10 ≤ likeness best then some best else none

/-- The options read so far. A value that is given once more takes the option back. -/
def Progress.given (p : Progress) : List ArgumentOption :=
  (if p.debug then [.debug] else []) ++
    (if p.data.isSome != p.pending.isSome then [.data] else [])

def Progress.excessUsage (p : Progress) : Usage :=
  if p.debug || p.data.isSome then .either else .named [.debug]

def unknownOption (p : Progress) (name : String) : ArgumentFault :=
  let meant := meant? name
  let named := p.given ++ meant.toList.filter fun option => !p.given.contains option
  .unknown ("--" ++ name) meant (if named.isEmpty then .options else .named named)

def long (p : Progress) (body : Bytes) : Except ArgumentFault Step :=
  let name := body.takeWhile fun b => b != 0x3D
  let value? := match body.dropWhile fun b => b != 0x3D with
    | [] => none
    | _ :: value => some value
  if name = utf8 "debug" then
    match value? with
    | none => do
      let p ← p.setDebug
      return .next p
    | some value => .error (.excessValue (showBytes value) p.excessUsage)
  else if name = utf8 "data" then
    match value? with
    | none => do
      let p ← p.settle
      return .wantValue p
    | some value => attached p value
  else .error (unknownOption p (showBytes name))

def option (p : Progress) (argument : Bytes) : Except ArgumentFault Step :=
  match argument with
  | 0x2D :: 0x2D :: body => long p body
  | 0x2D :: b :: body =>
    let (cs, invalid) := splitUtf8 (b :: body)
    cluster p cs invalid
  | _ => .error (.stray (showBytes argument))

/-- The rest of the arguments. Nothing may follow a lone pair of dashes. -/
def parseFrom (p : Progress) : List Bytes → Except ArgumentFault Arguments
  | [] => do
    let p ← p.settle
    return ⟨p.debug, p.data⟩
  | argument :: rest =>
    if argument = [0x2D, 0x2D] then
      match rest with
      | [] => do
        let p ← p.settle
        return ⟨p.debug, p.data⟩
      | extra :: _ => .error (.stray (showBytes extra))
    else do
      match ← option p argument with
      | .next p => parseFrom p rest
      | .wantValue p =>
        match rest with
        | [] => .error .missingValue
        | value :: rest => parseFrom { p with pending := some value } rest

def parse (argv : List ByteArray) : Except ArgumentFault Arguments :=
  parseFrom ⟨false, none, none⟩ (argv.map fun a => a.data.toList)

end Arguments

end OneShot
