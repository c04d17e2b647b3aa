import OneShot.Json.Record

/-! The process exit codes agreed with the host: one for success, one for failure, one for an absent
payload. Codes that a host can tell apart are called valid. -/

namespace OneShot

structure ExitCodes where
  success : UInt8
  error : UInt8
  noData : UInt8
  deriving DecidableEq

namespace ExitCodes

def standard : ExitCodes := ⟨0, 1, 2⟩

instance : Inhabited ExitCodes := ⟨standard⟩

inductive Fault
  | successNotZero (code : UInt8)
  | failureZero
  | failuresEqual (code : UInt8)

def Fault.message : Fault → String
  | successNotZero code =>
    "success exit code must be 0, got " ++ String.ofList (decimal code.toNat)
  | failureZero => "failure exit codes must be non-zero"
  | failuresEqual code =>
    "error and no-data exit codes must differ, both are " ++ String.ofList (decimal code.toNat)

def validate (codes : ExitCodes) : Except Fault Unit :=
  if codes.success ≠ 0 then .error (.successNotZero codes.success)
  else if codes.error = 0 ∨ codes.noData = 0 then .error .failureZero
  else if codes.error = codes.noData then .error (.failuresEqual codes.error)
  else .ok ()

structure Draft where
  success : Option UInt8 := none
  error : Option UInt8 := none
  noData : Option UInt8 := none

def readCode : Json.Reader UInt8 := fun s =>
  (Json.readInt .u8 s).map fun (n, r) => (UInt8.ofNat n.val.toNat, r)

def record : Json.Record Draft ExitCodes where
  title := "struct ExitCodes"
  fields := [
    .make "success" false Draft.success (fun d n => { d with success := some n }) readCode,
    .make "error" false Draft.error (fun d n => { d with error := some n }) readCode,
    .make "no_data" false Draft.noData (fun d n => { d with noData := some n }) readCode]
  blank := {}
  finish := fun d => .ok
    ⟨d.success.getD standard.success, d.error.getD standard.error, d.noData.getD standard.noData⟩

def codeText (code : UInt8) : List Char :=
  decimal code.toNat

def members (codes : ExitCodes) : List (String × List Char) :=
  [("success", codeText codes.success), ("error", codeText codes.error),
    ("no_data", codeText codes.noData)]

def write (codes : ExitCodes) : List Char :=
  Json.objectText (codes.members.map fun (name, value) => Json.memberText name value)

end ExitCodes

end OneShot
