import OneShot.Numeral.Shortest

/-! The text of floating-point numbers. A number is written with its shortest digits; a layout says
where the point goes and when an exponent is written. -/

namespace OneShot

structure RealLayout where
  tie : Tie
  /-- The decimal exponents written without an exponent; all of them if absent. -/
  positional : Option (Int × Int)
  pointed : Bool

namespace RealLayout

/-- Plain text: never an exponent, no needless point. -/
def plain : RealLayout := ⟨.upward, none, false⟩

/-- JSON text of a 64-bit number: an exponent outside `1e-5 … 1e15`, and a point in every other
number. -/
def double : RealLayout := ⟨.toEven, some (-5, 15), true⟩

/-- JSON text of a 32-bit number: an exponent outside `1e-6 … 1e12`. -/
def single : RealLayout := ⟨.toEven, some (-6, 12), true⟩

def place (l : RealLayout) (ds : List Char) (e : Int) : List Char :=
  if 0 ≤ e then
    ds ++ List.replicate e.toNat '0' ++ (if l.pointed then ['.', '0'] else [])
  else
    let after := (-e).toNat
    if after < ds.length then
      ds.take (ds.length - after) ++ '.' :: ds.drop (ds.length - after)
    else
      '0' :: '.' :: List.replicate (after - ds.length) '0' ++ ds

/-- The digits in scientific form; the sign of the exponent is always written. -/
def scientific (ds : List Char) (power : Int) : List Char :=
  let lead := match ds with
    | [] => []
    | [d] => [d]
    | d :: rest => d :: '.' :: rest
  lead ++ 'e' :: (if power < 0 then '-' else '+') :: decimal power.natAbs

def write (l : RealLayout) (k : Nat) (e : Int) : List Char :=
  let ds := decimal k
  let power := e + ds.length - 1
  match l.positional with
  | none => l.place ds e
  | some (lo, hi) =>
    if k = 0 ∨ lo ≤ power ∧ power ≤ hi then l.place ds e else scientific ds power

end RealLayout

structure Encoded where
  negative : Bool
  code : Nat

namespace Encoded

def ofFloat (x : Float) : Encoded :=
  let n := x.toBits.toNat
  ⟨n / (1 <<< 63) = 1, n % (1 <<< 63)⟩

def toFloat (x : Encoded) : Float :=
  Float.ofBits (UInt64.ofNat (x.code + if x.negative then 1 <<< 63 else 0))

def ofFloat32 (x : Float32) : Encoded :=
  let n := x.toBits.toNat
  ⟨n / (1 <<< 31) = 1, n % (1 <<< 31)⟩

def toFloat32 (x : Encoded) : Float32 :=
  Float32.ofBits (UInt32.ofNat (x.code + if x.negative then 1 <<< 31 else 0))

def write (x : Encoded) (f : BinaryFormat) (l : RealLayout) : List Char :=
  let (k, e) := f.shortest l.tie x.code
  (if x.negative then ['-'] else []) ++ l.write k e

def display (x : Encoded) (f : BinaryFormat) : String :=
  if f.infinity < x.code then "NaN"
  else if x.code = f.infinity then (if x.negative then "-inf" else "inf")
  else String.ofList (x.write f .plain)

/-- JSON text; what is not finite is `null`. -/
def json (x : Encoded) (f : BinaryFormat) (l : RealLayout) : List Char :=
  if f.infinity ≤ x.code then ['n', 'u', 'l', 'l'] else x.write f l

end Encoded

inductive RealText
  | notANumber
  | infinite
  | decimal (digits : Nat) (exponent : Int)

namespace RealText

def exponent? : List Char → Option Int
  | '+' :: s => (natural? s).map Int.ofNat
  | '-' :: s => (natural? s).map fun n => -(Int.ofNat n)
  | s => (natural? s).map Int.ofNat

/-- Digits with an optional point, at least one of them, and an optional exponent. -/
def decimal? (s : List Char) : Option RealText :=
  let (whole, s) := spanDigits s
  let (fraction, s) := match s with
    | '.' :: s => spanDigits s
    | s => ([], s)
  if whole.isEmpty && fraction.isEmpty then none
  else
    let digits := digitsValue (whole ++ fraction)
    match s with
    | [] => some (.decimal digits (-fraction.length))
    | c :: s =>
      if c = 'e' ∨ c = 'E' then (exponent? s).map fun e => .decimal digits (e - fraction.length)
      else none

def unsigned? (s : List Char) : Option RealText :=
  match String.ofList (s.map Char.toLower) with
  | "nan" => some .notANumber
  | "inf" | "infinity" => some .infinite
  | _ => decimal? s

def read? : List Char → Option (Bool × RealText)
  | '+' :: s => (unsigned? s).map fun x => (false, x)
  | '-' :: s => (unsigned? s).map fun x => (true, x)
  | s => (unsigned? s).map fun x => (false, x)

def parse? (f : BinaryFormat) (s : String) : Option Encoded :=
  (read? s.toList).map fun
    | (negative, .notANumber) => ⟨negative, f.infinity + f.half / 2⟩
    | (negative, .infinite) => ⟨negative, f.infinity⟩
    | (negative, .decimal m e) => ⟨negative, f.nearestDecimal m e⟩

end RealText

end OneShot
