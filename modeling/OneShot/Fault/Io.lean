import OneShot.Fault.SystemError
import OneShot.Text.Quoted

/-! Faults of input and output: those of the system by number, and those raised by a reader or
writer. -/

namespace OneShot

inductive IoFault
  | system (code : Int)
  | raised (kind : IoKind) (text : String)
  | bare (kind : IoKind)
  | notUtf8
  | nothingWritten
  | zeroInName

namespace IoFault

def notFound : IoFault := .system 2

def alreadyExists : IoFault := .system 17

def notADirectory : IoFault := .system 20

def isADirectory : IoFault := .system 21

def nameTooLong : IoFault := .system 36

def kind : IoFault → IoKind
  | system code => systemKind code
  | raised kind _ => kind
  | bare kind => kind
  | notUtf8 => .invalidData
  | nothingWritten => .writeZero
  | zeroInName => .invalidInput

def message : IoFault → String
  | system code => systemText code ++ " (os error " ++ String.ofList (decimalInt code) ++ ")"
  | raised _ text => text
  | bare kind => kind.description
  | notUtf8 => "stream did not contain valid UTF-8"
  | nothingWritten => "failed to write whole buffer"
  | zeroInName => "file name contained an unexpected NUL byte"

def detail (fault : IoFault) : String :=
  match fault with
  | system code =>
    "Os \x7b code: " ++ String.ofList (decimalInt code) ++ ", kind: " ++ fault.kind.name ++
      ", message: " ++ quoted (systemText code) ++ " \x7d"
  | raised kind text => "Custom \x7b kind: " ++ kind.name ++ ", error: " ++ quoted text ++ " \x7d"
  | bare kind => "Kind(" ++ kind.name ++ ")"
  | notUtf8 | nothingWritten | zeroInName =>
    "Error \x7b kind: " ++ fault.kind.name ++ ", message: " ++ quoted fault.message ++ " \x7d"

end IoFault

end OneShot
