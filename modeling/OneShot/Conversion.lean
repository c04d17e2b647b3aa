import OneShot.DataType

/-! Conversion between plain text and values. A table holds a converter for some types; whether a type
has one decides how its payloads are read and its results written. -/

namespace OneShot

structure Converter (α : Type) where
  parse : String → Option α
  render : α → String

namespace Converter

def string : Converter String := ⟨some, id⟩

def bool (yes no : String) : Converter Bool :=
  ⟨fun s => if s = yes then some true else if s = no then some false else none,
    fun b => if b then yes else no⟩

def char : Converter Char :=
  ⟨fun s => match s.toList with
    | [c] => some c
    | _ => none, String.singleton⟩

def int (k : IntKind) : Converter k.Num := ⟨k.parse?, k.render⟩

def f32 : Converter Float32 :=
  ⟨fun s => (RealText.parse? .binary32 s).map Encoded.toFloat32,
    fun x => (Encoded.ofFloat32 x).display .binary32⟩

def f64 : Converter Float :=
  ⟨fun s => (RealText.parse? .binary64 s).map Encoded.toFloat,
    fun x => (Encoded.ofFloat x).display .binary64⟩

def tag : Converter Tag := ⟨Tag.parse?, Tag.render⟩

def point : Converter Point := ⟨Point.parse?, Point.render⟩

def mediaType : Converter MediaType :=
  ⟨fun s => (MediaType.parse s).toOption, MediaType.display⟩

def address : Converter Address := ⟨Address.parse?, Address.render⟩

end Converter

structure ConversionTable where
  converter? : (t : DataType) → Option (Converter t.Val)

namespace ConversionTable

def empty : ConversionTable := ⟨fun _ => none⟩

def standard : ConversionTable where
  converter?
    | .string => some .string
    | .bool => some (.bool "true" "false")
    | .char => some .char
    | .int k => some (.int k)
    | .f32 => some .f32
    | .f64 => some .f64
    | _ => none

def register (table : ConversionTable) (t : DataType) (c : Converter t.Val) : ConversionTable where
  converter? u := if h : t = u then some (h ▸ c) else table.converter? u

def canConvert (table : ConversionTable) (t : DataType) : Bool :=
  (table.converter? t).isSome

def convert (table : ConversionTable) (t : DataType) (data : String) : Except Fault t.Val :=
  match table.converter? t with
  | none => .error (.unconvertible data t.name (some .noConverter))
  | some c =>
    match c.parse data with
    | some v => .ok v
    | none => .error (.unconvertible data t.name (some (.invalid t.name)))

def render (table : ConversionTable) (t : DataType) (v : t.Val) : Option String :=
  (table.converter? t).map fun c => c.render v

theorem converter?_register_self (table : ConversionTable) (t : DataType) (c : Converter t.Val) :
    (table.register t c).converter? t = some c := by
  simp [register]

theorem converter?_register_of_ne (table : ConversionTable) {t u : DataType}
    (c : Converter t.Val) (h : t ≠ u) :
    (table.register t c).converter? u = table.converter? u := by
  simp [register, h]

end ConversionTable

end OneShot
