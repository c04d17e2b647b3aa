import OneShot.Json.Read

/-! Records: objects with known members. A record is read from an object, whose unknown members are
skipped, or from an array of its fields in order. What has been read so far is a draft. -/

namespace OneShot.Json

structure Field (σ : Type) where
  name : String
  required : Bool
  filled : σ → Bool
  read : σ → Reader σ

structure Record (σ α : Type) where
  title : String
  fields : List (Field σ)
  blank : σ
  finish : σ → Except Fault α

def Field.make {σ β : Type} (name : String) (required : Bool) (get : σ → Option β)
    (enter : σ → β → σ) (read : Reader β) : Field σ :=
  ⟨name, required, fun d => (get d).isSome, fun d s => (read s).map fun (b, r) => (enter d b, r)⟩

def require {β : Type} (name : String) (value : Option β) : Except Fault β :=
  match value with
  | some b => .ok b
  | none => .error (.missingField name)

namespace Record

variable {σ α : Type}

def sizeText (record : Record σ α) : String :=
  let n := record.fields.length
  record.title ++ " with " ++ String.ofList (decimal n) ++
    (if n = 1 then " element" else " elements")

/-- Reads one member of an object: a known field once, an unknown one by skipping. -/
def member (record : Record σ α) (name : String) (draft : σ) : Reader σ := fun s =>
  match record.fields.find? fun f => f.name == name with
  | some f =>
    if f.filled draft then .error ⟨.duplicateField f.name, .past s 0⟩
    else do
      let s ← scanColon s
      f.read draft s
  | none => do
    let s ← scanColon s
    let s ← skim s
    return (draft, s)

def conclude (record : Record σ α) (draft : σ) (rest : List Char) :
    Except Stop (α × List Char) :=
  match record.finish draft with
  | .ok a => .ok (a, rest)
  | .error fault => .error (.before fault rest)

/-- The rest of an object that is left after a value: what follows its end, if it ends here. -/
def leaveObject (s : List Char) : List Char :=
  match skipSpace s with
  | '\x7d' :: s => s
  | s => s

def ofObject (record : Record σ α) : Reader α := fun s =>
  match readMembers record.member (s.length + 1) true record.blank s with
  | .ok (draft, s) => record.conclude draft s
  | .error stop => .error (stop.place leaveObject)

/-- The fields from an array, `position` being the place of the first of them. Fields that may be
absent may be missing at the end. -/
def readFields (record : Record σ α) : List (Field σ) → Nat → σ → Reader σ
  | [], _, draft, s => do
    let s ← endItems s
    return (draft, s)
  | f :: fs, position, draft, s => do
    match ← nextItem (position = 0) s with
    | .done r =>
      match (f :: fs).findIdx? Field.required with
      | some i => .error (.before (.wrongLength (position + i) record.sizeText) r)
      | none => return (draft, r)
    | .more s =>
      let (draft, s) ← f.read draft s
      record.readFields fs (position + 1) draft s

/-- The rest of an array that is left after a value: what follows its end or a comma, if there is
one. -/
def leaveArray (s : List Char) : List Char :=
  match skipSpace s with
  | ']' :: s => s
  | ',' :: s => skipSpace s
  | s => s

def ofArray (record : Record σ α) : Reader α := fun s =>
  match record.readFields record.fields 0 record.blank s with
  | .ok (draft, s) => record.conclude draft s
  | .error stop => .error (stop.place leaveArray)

def read (record : Record σ α) : Reader α := fun s =>
  match skipSpace s with
  | '\x7b' :: s => record.ofObject s
  | '[' :: s => record.ofArray s
  | s => .error (mismatch record.title s)

end Record

end OneShot.Json
