/-! UTF-8 with replacement. Bytes that are no encoding become U+FFFD, one for each longest start of
an encoding, so that any byte string can be shown. -/

namespace OneShot.Utf8

/-- What is still owed of a character: the count of bytes, the range of the next, and the value so
far. -/
structure Pending where
  owed : Nat
  least : UInt8
  greatest : UInt8
  value : Nat

def replacement : Char := Char.ofNat 0xFFFD

def start (b : UInt8) : List Char × Option Pending :=
  let n := b.toNat
  if n < 0x80 then ([Char.ofNat n], none)
  else if n < 0xC2 then ([replacement], none)
  else if n < 0xE0 then ([], some ⟨1, 0x80, 0xBF, n - 0xC0⟩)
  else if n = 0xE0 then ([], some ⟨2, 0xA0, 0xBF, 0⟩)
  else if n = 0xED then ([], some ⟨2, 0x80, 0x9F, n - 0xE0⟩)
  else if n < 0xF0 then ([], some ⟨2, 0x80, 0xBF, n - 0xE0⟩)
  else if n = 0xF0 then ([], some ⟨3, 0x90, 0xBF, 0⟩)
  else if n < 0xF4 then ([], some ⟨3, 0x80, 0xBF, n - 0xF0⟩)
  else if n = 0xF4 then ([], some ⟨3, 0x80, 0x8F, 4⟩)
  else ([replacement], none)

/-- What the next byte gives. A byte out of range ends the character begun and starts anew. -/
def feed (pending : Option Pending) (b : UInt8) : List Char × Option Pending :=
  match pending with
  | none => start b
  | some p =>
    if p.least ≤ b ∧ b ≤ p.greatest then
      let value := p.value * 64 + (b.toNat - 0x80)
      if p.owed ≤ 1 then ([Char.ofNat value], none)
      else ([], some ⟨p.owed - 1, 0x80, 0xBF, value⟩)
    else
      let (out, next) := start b
      (replacement :: out, next)

def decodeFrom (pending : Option Pending) : List UInt8 → List Char
  | [] => if pending.isSome then [replacement] else []
  | b :: bs =>
    let (out, next) := feed pending b
    out ++ decodeFrom next bs

def lossy (bytes : ByteArray) : String :=
  String.ofList (decodeFrom none bytes.data.toList)

end OneShot.Utf8
