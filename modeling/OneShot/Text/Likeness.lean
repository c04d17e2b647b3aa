/-! How alike two words are, from 0 for words with nothing in common to 1 for equal words. What counts are
equal characters that stand near each other, and their order. -/

namespace OneShot.Likeness

/-- How far apart equal characters of two words may stand to count as common. -/
def window (a b : List Char) : Nat :=
  max a.length b.length / 2 - 1

/-- The places in `b` of the characters common to it and to the rest of another word, which begins at
place `i`. Each takes the first equal character in reach that is not taken yet. -/
def partners (reach : Nat) (b : List Char) : Nat → List Nat → List Char → List Nat
  | _, _, [] => []
  | i, taken, c :: cs =>
    match (List.range b.length).find? fun j =>
      i ≤ j + reach && j ≤ i + reach && b[j]? == some c && !taken.contains j with
    | some j => j :: partners reach b (i + 1) (j :: taken) cs
    | none => partners reach b (i + 1) taken cs

/-- How many places hold other characters than the same places in order. -/
def displaced (b : List Char) (places : List Nat) : Nat :=
  let ordered := (List.range b.length).filter fun j => places.contains j
  (places.zip ordered).countP fun (j, k) => b[j]? != b[k]?

/-- The mean of the share of common characters in either word and of those that need not change
places. -/
def similarity (a b : List Char) : Rat :=
  let places := partners (window a b) b 0 [] a
  if places.isEmpty then 0
  else
    let common := places.length
    let kept := common - displaced b places / 2
    ((common : Rat) / a.length + (common : Rat) / b.length + (kept : Rat) / common) / 3

end OneShot.Likeness
