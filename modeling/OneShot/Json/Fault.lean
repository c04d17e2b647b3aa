import OneShot.Numeral.Real
import OneShot.Text.Quoted

/-! What can be wrong with a JSON text, and how it is said. -/

namespace OneShot.Json

inductive Found
  | null
  | bool (b : Bool)
  | integer (n : Int)
  | real (x : Float)
  | string (s : String)
  | sequence
  | map

inductive Fault
  | endInValue
  | endInList
  | endInObject
  | endInString
  | wrongLetter
  | noValue
  | noListEnd
  | noObjectEnd
  | noColon
  | trailingComma
  | trailingText
  | keyNotString
  | badNumber
  | numberTooLarge
  | controlCharacter
  | badEscape
  | halfPair
  | lonePair
  | tooDeep
  | wrongKind (found : Found) (expected : String)
  | wrongValue (found : Found) (expected : String)
  | wrongLength (length : Nat) (expected : String)
  | duplicateField (name : String)
  | missingField (name : String)
  | refused (message : String)

def Found.describe : Found → String
  | null => "null"
  | bool true => "boolean \x60true\x60"
  | bool false => "boolean \x60false\x60"
  | integer n => "integer \x60" ++ String.ofList (decimalInt n) ++ "\x60"
  | real x =>
    "floating point \x60" ++ String.ofList ((Encoded.ofFloat x).json .binary64 .double) ++ "\x60"
  | string s => "string " ++ quoted s
  | sequence => "sequence"
  | map => "map"

def Fault.message : Fault → String
  | endInValue => "EOF while parsing a value"
  | endInList => "EOF while parsing a list"
  | endInObject => "EOF while parsing an object"
  | endInString => "EOF while parsing a string"
  | wrongLetter => "expected ident"
  | noValue => "expected value"
  | noListEnd => "expected \x60,\x60 or \x60]\x60"
  | noObjectEnd => "expected \x60,\x60 or \x60\x7d\x60"
  | noColon => "expected \x60:\x60"
  | trailingComma => "trailing comma"
  | trailingText => "trailing characters"
  | keyNotString => "key must be a string"
  | badNumber => "invalid number"
  | numberTooLarge => "number out of range"
  | controlCharacter => "control character (\\u0000-\\u001F) found while parsing a string"
  | badEscape => "invalid escape"
  | halfPair => "unexpected end of hex escape"
  | lonePair => "lone leading surrogate in hex escape"
  | tooDeep => "recursion limit exceeded"
  | wrongKind found expected => "invalid type: " ++ found.describe ++ ", expected " ++ expected
  | wrongValue found expected => "invalid value: " ++ found.describe ++ ", expected " ++ expected
  | wrongLength length expected =>
    "invalid length " ++ String.ofList (decimal length) ++ ", expected " ++ expected
  | duplicateField name => "duplicate field \x60" ++ name ++ "\x60"
  | missingField name => "missing field \x60" ++ name ++ "\x60"
  | refused message => message

end OneShot.Json
