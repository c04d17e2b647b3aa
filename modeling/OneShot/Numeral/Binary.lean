import OneShot.Numeral.Digits

/-! Binary floating-point formats. A magnitude is kept as its encoding, in which the order of
encodings is the order of values. A quotient is rounded to the nearest magnitude, ties to even. -/

namespace OneShot

/-- A format whose magnitudes are `m * 2 ^ q` with `m` of at most `digits` binary digits and `q` at
least `least`. The encoding of infinity follows that of the greatest finite magnitude. -/
structure BinaryFormat where
  digits : Nat
  least : Int
  infinity : Nat

namespace BinaryFormat

def binary64 : BinaryFormat := ⟨53, -1074, 0x7FF0000000000000⟩

def binary32 : BinaryFormat := ⟨24, -149, 0x7F800000⟩

def half (f : BinaryFormat) : Nat :=
  1 <<< (f.digits - 1)

def divideEven (num den : Nat) : Nat :=
  let q := num / den
  let r := num % den
  if 2 * r < den then q
  else if den < 2 * r then q + 1
  else if q % 2 = 0 then q else q + 1

def scale (base : Nat) (e : Int) (num den : Nat) : Nat × Nat :=
  if 0 ≤ e then (num * base.pow e.toNat, den) else (num, den * base.pow (-e).toNat)

def nearest (f : BinaryFormat) (num den : Nat) : Nat :=
  if num = 0 then 0
  else
    let guess : Int := num.log2 - den.log2 - f.digits
    let q := max f.least guess
    let (n, d) := scale 2 (-q) num den
    let q' := if n / d < 1 <<< f.digits then q else q + 1
    let (n', d') := scale 2 (-q') num den
    min f.infinity ((q' - f.least).toNat * f.half + divideEven n' d')

/-- The encoding nearest to `m * 10 ^ e`. An exponent beyond every magnitude is not computed. -/
def nearestDecimal (f : BinaryFormat) (m : Nat) (e : Int) : Nat :=
  if m = 0 then 0
  else
    let size : Int := (decimal m).length + e
    if 400 < size then f.infinity
    else if size < -400 then 0
    else
      let (n, d) := scale 10 e m 1
      f.nearest n d

def parts (f : BinaryFormat) (code : Nat) : Nat × Int :=
  let field := code / f.half
  let rest := code % f.half
  if field = 0 then (rest, f.least) else (f.half + rest, f.least + (field - 1 : Nat))

end BinaryFormat

end OneShot
