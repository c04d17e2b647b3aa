import OneShot.Json.Position
import OneShot.Json.Value

/-! The tokens of JSON. Each scanner takes the text from its token on and gives what follows it. -/

namespace OneShot.Json

abbrev Reader (α : Type) : Type :=
  List Char → Except Stop (α × List Char)

def isSpace (c : Char) : Bool :=
  c = ' ' || c = '\n' || c = '\t' || c = '\r'

def skipSpace (s : List Char) : List Char :=
  s.dropWhile isSpace

def scanWord : List Char → List Char → Except Stop (List Char)
  | [], s => .ok s
  | _ :: _, [] => .error (.ended .endInValue)
  | l :: ls, c :: s => if c = l then scanWord ls s else .error (.met .wrongLetter (c :: s))

def hexValue? (c : Char) : Option Nat :=
  if '0' ≤ c ∧ c ≤ '9' then some (c.toNat - '0'.toNat)
  else if 'a' ≤ c ∧ c ≤ 'f' then some (c.toNat - 'a'.toNat + 10)
  else if 'A' ≤ c ∧ c ≤ 'F' then some (c.toNat - 'A'.toNat + 10)
  else none

def hexQuad? (a b c d : Char) : Option Nat := do
  let w ← hexValue? a
  let x ← hexValue? b
  let y ← hexValue? c
  let z ← hexValue? d
  return ((w * 16 + x) * 16 + y) * 16 + z

/-- What is wrong with a text that does not begin with four hexadecimal digits. A text of fewer than
four bytes ends too early. -/
def quadStop (s : List Char) : Stop :=
  if byteLength s < 4 then .ended .endInString else ⟨.badEscape, .upTo s 4⟩

def escaped? (c : Char) : Option Char :=
  if c = '"' ∨ c = '\\' ∨ c = '/' then some c
  else if c = 'b' then some '\x08'
  else if c = 'f' then some '\x0c'
  else if c = 'n' then some '\n'
  else if c = 'r' then some '\r'
  else if c = 't' then some '\t'
  else none

def isHighSurrogate (n : Nat) : Bool :=
  0xD800 ≤ n && n ≤ 0xDBFF

def isLowSurrogate (n : Nat) : Bool :=
  0xDC00 ≤ n && n ≤ 0xDFFF

def pairValue (high low : Nat) : Char :=
  Char.ofNat ((high - 0xD800) * 0x400 + (low - 0xDC00) + 0x10000)

/-- What is wrong with a text that should be the second half of a surrogate pair and does not begin
with an escape of four digits. -/
def pairStop : List Char → Stop
  | [] => .ended .endInString
  | '\\' :: [] => .ended .endInString
  | '\\' :: 'u' :: s => quadStop s
  | '\\' :: s => .met .halfPair s
  | s => .met .halfPair s

def scanString : List Char → Except Stop (List Char × List Char)
  | [] => .error (.ended .endInString)
  | '"' :: s => .ok ([], s)
  | '\\' :: t =>
    match t with
    | 'u' :: a :: b :: c :: d :: s =>
      match hexQuad? a b c d with
      | none => .error (quadStop (a :: b :: c :: d :: s))
      | some n =>
        if isLowSurrogate n then .error (.before .lonePair s)
        else if isHighSurrogate n then
          match s with
          | '\\' :: 'u' :: a' :: b' :: c' :: d' :: s' =>
            match hexQuad? a' b' c' d' with
            | none => .error (quadStop (a' :: b' :: c' :: d' :: s'))
            | some m =>
              if isLowSurrogate m then
                (scanString s').map fun (cs, r) => (pairValue n m :: cs, r)
              else .error (.before .lonePair s')
          | s => .error (pairStop s)
        else (scanString s).map fun (cs, r) => (Char.ofNat n :: cs, r)
    | 'u' :: s => .error (quadStop s)
    | c :: s =>
      match escaped? c with
      | some e => (scanString s).map fun (cs, r) => (e :: cs, r)
      | none => .error (.met .badEscape (c :: s))
    | [] => .error (.ended .endInString)
  | c :: s =>
    if c.toNat < 0x20 then .error (.met .controlCharacter (c :: s))
    else (scanString s).map fun (cs, r) => (c :: cs, r)

/-- The text after a string whose opening quote has been read. Escapes need their digits, but
surrogates need no partner. -/
def skimString : List Char → Except Stop (List Char)
  | [] => .error (.ended .endInString)
  | '"' :: s => .ok s
  | '\\' :: t =>
    match t with
    | 'u' :: a :: b :: c :: d :: s =>
      match hexQuad? a b c d with
      | none => .error (quadStop (a :: b :: c :: d :: s))
      | some _ => skimString s
    | 'u' :: s => .error (quadStop s)
    | c :: s => if (escaped? c).isSome then skimString s else .error (.met .badEscape (c :: s))
    | [] => .error (.ended .endInString)
  | c :: s =>
    if c.toNat < 0x20 then .error (.before .controlCharacter (c :: s)) else skimString s

structure Exponent where
  negative : Bool
  digits : List Char

namespace Exponent

def value (e : Exponent) : Int :=
  if e.negative then -(digitsValue e.digits : Int) else digitsValue e.digits

/-- The digits after the one with which the exponent passes 31 bits. They are not looked at if the
number is too large. -/
def excess (e : Exponent) : List Char :=
  if e.negative then []
  else
    let small := (List.range (e.digits.length + 1)).takeWhile fun n =>
      digitsValue (e.digits.take n) < 1 <<< 31
    e.digits.drop small.length

end Exponent

/-- A number as it is written, without its sign. A part that is missing is `none`. -/
structure NumberText where
  whole : List Char
  fraction : Option (List Char)
  exponent : Option Exponent

/-- The digits before the point. A zero stands alone. -/
def scanWhole (early : Fault) : List Char → Except Stop (List Char × List Char)
  | [] => .error (.ended early)
  | c :: s =>
    if c = '0' then
      match s with
      | d :: _ => if d.isDigit then .error (.met .badNumber s) else .ok (['0'], s)
      | [] => .ok (['0'], s)
    else if c.isDigit then .ok (spanDigits (c :: s))
    else .error (.met .badNumber (c :: s))

def scanDigits (early : Fault) (s : List Char) : Except Stop (List Char × List Char) :=
  match s with
  | [] => .error (.ended early)
  | c :: _ => if c.isDigit then .ok (spanDigits s) else .error (.met .badNumber s)

def scanFraction (early : Fault) (s : List Char) :
    Except Stop (Option (List Char) × List Char) :=
  match s with
  | '.' :: s => (scanDigits early s).map fun (ds, r) => (some ds, r)
  | s => .ok (none, s)

def scanExponent (early : Fault) (s : List Char) :
    Except Stop (Option Exponent × List Char) :=
  match s with
  | c :: s =>
    if c = 'e' ∨ c = 'E' then
      match s with
      | '+' :: s => (scanDigits early s).map fun (ds, r) => (some ⟨false, ds⟩, r)
      | '-' :: s => (scanDigits early s).map fun (ds, r) => (some ⟨true, ds⟩, r)
      | s => (scanDigits early s).map fun (ds, r) => (some ⟨false, ds⟩, r)
    else .ok (none, c :: s)
  | [] => .ok (none, [])

/-- A number without its sign. A number that the text ends in is the fault `early`. -/
def scanNumber (early : Fault) (s : List Char) : Except Stop (NumberText × List Char) := do
  let (whole, s) ← scanWhole early s
  let (fraction, s) ← scanFraction early s
  let (exponent, s) ← scanExponent early s
  return (⟨whole, fraction, exponent⟩, s)

namespace NumberText

def scale (t : NumberText) : Int :=
  match t.exponent with
  | some e => e.value
  | none => 0

def toReal? (t : NumberText) (negative : Bool) : Option Number :=
  let fraction := t.fraction.getD []
  let code := BinaryFormat.binary64.nearestDecimal (digitsValue (t.whole ++ fraction))
    (t.scale - fraction.length)
  if BinaryFormat.binary64.infinity ≤ code then none
  else some (.real (Encoded.toFloat ⟨negative, code⟩))

/-- The value of a written number, if it is not too large. An integer is one without fraction and
exponent that fits 64 bits; a negative zero is not an integer. -/
def toNumber? (t : NumberText) (negative : Bool) : Option Number :=
  match t.fraction, t.exponent with
  | none, none =>
    let n := digitsValue t.whole
    if negative && n = 0 then t.toReal? negative
    else match Number.ofInt? (if negative then -(n : Int) else n) with
      | some n => some n
      | none => t.toReal? negative
  | _, _ => t.toReal? negative

/-- What is left to read at the place where the number before `rest` shows to be too large. -/
def unread (t : NumberText) (rest : List Char) : List Char :=
  match t.exponent with
  | some e => e.excess ++ rest
  | none => rest

end NumberText

def startsNumber (c : Char) : Bool :=
  c = '-' || c.isDigit

def readNumber : Reader Number := fun s => do
  let (negative, s) := match s with
    | '-' :: s => (true, s)
    | s => (false, s)
  let (t, s) ← scanNumber .endInValue s
  match t.toNumber? negative with
  | some n => return (n, s)
  | none => .error (.before .numberTooLarge (t.unread s))

end OneShot.Json
