import OneShot.Numeral.Binary

/-! The shortest decimal that reads back as a given magnitude. The grids of multiples of a power of
ten are tried from coarse to fine; on each grid only the two neighbours of the magnitude matter. -/

namespace OneShot

inductive Tie
  | toEven
  | upward
  deriving DecidableEq, Repr

/-- A magnitude with the interval of reals that round to it, all scaled by a common factor; `closed`
says whether the ends belong to it. -/
structure RoundingInterval where
  low : Nat
  mid : Nat
  high : Nat
  closed : Bool

namespace RoundingInterval

def contains (i : RoundingInterval) (x : Nat) : Bool :=
  if i.closed then i.low ≤ x && x ≤ i.high else i.low < x && x < i.high

/-- The multiple of `step` in the interval that is nearest to the magnitude, as a count of steps. -/
def onGrid? (i : RoundingInterval) (tie : Tie) (step : Nat) : Option Nat :=
  let k := i.mid / step
  match i.contains (k * step), i.contains ((k + 1) * step) with
  | true, true =>
    let below := i.mid - k * step
    let above := (k + 1) * step - i.mid
    if below < above then some k
    else if above < below then some (k + 1)
    else match tie with
      | .upward => some (k + 1)
      | .toEven => some (if k % 2 = 0 then k else k + 1)
  | true, false => some k
  | false, true => some (k + 1)
  | false, false => none

end RoundingInterval

namespace BinaryFormat

/-- The interval of a magnitude, in quarters of its unit. The gap below a power of two is half as
wide. -/
def interval (f : BinaryFormat) (code : Nat) : RoundingInterval :=
  let m := (f.parts code).1
  let narrow := code % f.half = 0 ∧ 1 < code / f.half
  ⟨4 * m - (if narrow then 1 else 2), 4 * m, 4 * m + 2, m % 2 = 0⟩

/-- The shortest decimal `k * 10 ^ e` that reads back as a finite magnitude, as `k` and `e`. -/
def shortest (f : BinaryFormat) (tie : Tie) (code : Nat) : Nat × Int :=
  if code = 0 then (0, 0)
  else
    let i := f.interval code
    let (a, b) := scale 2 ((f.parts code).2 - 2) 1 1
    let top : Int := (decimal (i.mid * a)).length - (decimal b).length + 1
    let hit? := (List.range 20).findSome? fun (j : Nat) =>
      let e := top - j
      let (c, d) := scale 10 e 1 1
      let scaled : RoundingInterval := ⟨i.low * a * d, i.mid * a * d, i.high * a * d, i.closed⟩
      (scaled.onGrid? tie (c * b)).map fun k => (k, e)
    hit?.getD (0, 0)

end BinaryFormat

end OneShot
