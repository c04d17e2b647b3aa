import OneShot.Json.Record
import OneShot.Text.Blank

/-! Small data types that functions take and give: records of one field and of two, a named text, and
an internet address. -/

namespace OneShot

structure Point where
  x : IntKind.i32.Num
  deriving DecidableEq

structure Ledger where
  name : String
  total : IntKind.u128.Num
  deriving DecidableEq

structure Tag where
  text : String
  deriving DecidableEq

structure Shifted where
  y : IntKind.i32.Num
  deriving DecidableEq

structure GreetRequest where
  name : String
  deriving DecidableEq

structure Greeting where
  message : String
  deriving DecidableEq

structure Address where
  a : UInt8
  b : UInt8
  c : UInt8
  d : UInt8
  deriving DecidableEq

def oneField {β α : Type} (title name : String) (read : Json.Reader β) (make : β → α) :
    Json.Record (Option β) α where
  title := title
  fields := [.make name true id (fun _ b => some b) read]
  blank := none
  finish := fun d => (Json.require name d).map make

namespace Point

def record : Json.Record (Option IntKind.i32.Num) Point :=
  oneField "struct Point" "x" (Json.readInt .i32) Point.mk

def write (p : Point) : List Char :=
  Json.objectText [Json.memberText "x" (decimalInt p.x.val)]

def render (p : Point) : String :=
  "x=" ++ IntKind.i32.render p.x

def parse? (s : String) : Option Point :=
  match s.toList with
  | 'x' :: '=' :: s => (IntKind.i32.parse? (String.ofList s)).map Point.mk
  | _ => none

end Point

namespace Ledger

structure Draft where
  name : Option String := none
  total : Option IntKind.u128.Num := none

def record : Json.Record Draft Ledger where
  title := "struct Ledger"
  fields := [
    .make "name" true Draft.name (fun d a => { d with name := some a }) Json.readString,
    .make "total" true Draft.total (fun d a => { d with total := some a }) (Json.readInt .u128)]
  blank := {}
  finish := fun d => do
    let name ← Json.require "name" d.name
    let total ← Json.require "total" d.total
    return ⟨name, total⟩

def write (l : Ledger) : List Char :=
  Json.objectText [
    Json.memberText "name" (Json.quote l.name),
    Json.memberText "total" (decimalInt l.total.val)]

end Ledger

namespace Tag

def render (t : Tag) : String :=
  "#" ++ t.text

def parse? (s : String) : Option Tag :=
  match s.toList with
  | '#' :: s => some ⟨String.ofList s⟩
  | _ => none

def readJson : Json.Reader Tag := fun s =>
  (Json.readString s).map fun (text, r) => (⟨text⟩, r)

end Tag

namespace Shifted

def record : Json.Record (Option IntKind.i32.Num) Shifted :=
  oneField "struct Shifted" "y" (Json.readInt .i32) Shifted.mk

def write (s : Shifted) : List Char :=
  Json.objectText [Json.memberText "y" (decimalInt s.y.val)]

end Shifted

namespace GreetRequest

def record : Json.Record (Option String) GreetRequest :=
  oneField "struct GreetRequest" "name" Json.readString GreetRequest.mk

def write (r : GreetRequest) : List Char :=
  Json.objectText [Json.memberText "name" (Json.quote r.name)]

end GreetRequest

namespace Greeting

def record : Json.Record (Option String) Greeting :=
  oneField "struct Greeting" "message" Json.readString Greeting.mk

def write (g : Greeting) : List Char :=
  Json.objectText [Json.memberText "message" (Json.quote g.message)]

end Greeting

namespace Address

/-- One to three digits without a leading zero, below 256. -/
def octet? (s : List Char) : Option UInt8 :=
  match natural? s with
  | some n =>
    if 3 < s.length ∨ 255 < n ∨ (1 < s.length ∧ s.head? = some '0') then none
    else some (UInt8.ofNat n)
  | none => none

def parse? (s : String) : Option Address :=
  match cutAt (fun c => c == '.') s.toList with
  | [a, b, c, d] => do
    let a ← octet? a
    let b ← octet? b
    let c ← octet? c
    let d ← octet? d
    return ⟨a, b, c, d⟩
  | _ => none

def render (x : Address) : String :=
  String.ofList (decimal x.a.toNat ++ '.' :: decimal x.b.toNat ++ '.' :: decimal x.c.toNat ++
    '.' :: decimal x.d.toNat)

def readJson : Json.Reader Address := fun s => do
  let (text, r) ← Json.readString s
  match parse? text with
  | some x => return (x, r)
  | none => .error (.before (.refused "invalid IPv4 address syntax") r)

end Address

end OneShot
