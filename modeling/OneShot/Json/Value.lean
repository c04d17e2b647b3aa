import OneShot.Dictionary
import OneShot.Json.Text

/-! JSON values. An integer that fits 64 bits stays an integer; every other number is a 64-bit real.
An object has its members in the order of their names. -/

namespace OneShot.Json

inductive Number
  | int (n : Int) (lo : -(1 <<< 63 : Nat) ≤ n) (hi : n < (1 <<< 64 : Nat))
  | real (x : Float)

def Number.ofInt? (n : Int) : Option Number :=
  if h : -(1 <<< 63 : Nat) ≤ n ∧ n < (1 <<< 64 : Nat) then some (.int n h.1 h.2) else none

def Number.ofNat (n : Nat) (h : n < 1 <<< 64) : Number :=
  .int n (by omega) (by omega)

inductive Value
  | null
  | bool (b : Bool)
  | number (n : Number)
  | string (s : String)
  | array (items : List Value)
  | object (members : List (String × Value))

instance : Inhabited Value := ⟨.null⟩

def boolText (b : Bool) : List Char :=
  if b then ['t', 'r', 'u', 'e'] else ['f', 'a', 'l', 's', 'e']

def nullText : List Char :=
  ['n', 'u', 'l', 'l']

def realText (x : Float) : List Char :=
  (Encoded.ofFloat x).json .binary64 .double

def Number.write : Number → List Char
  | int n _ _ => decimalInt n
  | real x => realText x

mutual

def Value.write : Value → List Char
  | .null => nullText
  | .bool b => boolText b
  | .number n => n.write
  | .string s => quote s
  | .array items => arrayText (Value.writeItems items)
  | .object members => objectText (Value.writeMembers members)

def Value.writeItems : List Value → List (List Char)
  | [] => []
  | v :: vs => v.write :: Value.writeItems vs

def Value.writeMembers : List (String × Value) → List (List Char)
  | [] => []
  | (name, v) :: rest => memberText name v.write :: Value.writeMembers rest

end

end OneShot.Json
