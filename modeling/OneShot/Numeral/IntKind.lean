import OneShot.Numeral.Digits

/-! The integer types: their ranges, and the text of their numbers. A number is read from an optional
sign and decimal digits; a minus sign is for the signed types. -/

namespace OneShot

inductive IntKind
  | i8 | i16 | i32 | i64 | i128 | isize
  | u8 | u16 | u32 | u64 | u128 | usize
  deriving DecidableEq, Repr

namespace IntKind

def all : List IntKind :=
  [i8, i16, i32, i64, i128, isize, u8, u16, u32, u64, u128, usize]

def signed : IntKind → Bool
  | i8 | i16 | i32 | i64 | i128 | isize => true
  | u8 | u16 | u32 | u64 | u128 | usize => false

def bits : IntKind → Nat
  | i8 | u8 => 8
  | i16 | u16 => 16
  | i32 | u32 => 32
  | i64 | u64 | isize | usize => 64
  | i128 | u128 => 128

def name : IntKind → String
  | i8 => "i8" | i16 => "i16" | i32 => "i32" | i64 => "i64" | i128 => "i128" | isize => "isize"
  | u8 => "u8" | u16 => "u16" | u32 => "u32" | u64 => "u64" | u128 => "u128" | usize => "usize"

def lo (k : IntKind) : Int :=
  if k.signed then -(1 <<< (k.bits - 1) : Nat) else 0

def hi (k : IntKind) : Int :=
  if k.signed then (1 <<< (k.bits - 1) : Nat) - 1 else (1 <<< k.bits : Nat) - 1

abbrev Num (k : IntKind) : Type :=
  { n : Int // k.lo ≤ n ∧ n ≤ k.hi }

def ofInt? (k : IntKind) (n : Int) : Option k.Num :=
  if h : k.lo ≤ n ∧ n ≤ k.hi then some ⟨n, h⟩ else none

/-- The number of the type that differs from the integer by a multiple of its modulus. -/
def wrap (k : IntKind) (n : Int) : Int :=
  (n - k.lo) % (1 <<< k.bits : Nat) + k.lo

def integer? (k : IntKind) : List Char → Option Int
  | '+' :: s => (natural? s).map Int.ofNat
  | '-' :: s => if k.signed then (natural? s).map fun n => -(Int.ofNat n) else none
  | s => (natural? s).map Int.ofNat

def parse? (k : IntKind) (s : String) : Option k.Num :=
  (k.integer? s.toList).bind k.ofInt?

def render (k : IntKind) (n : k.Num) : String :=
  String.ofList (decimalInt n.val)

theorem wrap_mem (k : IntKind) (n : Int) : k.lo ≤ k.wrap n ∧ k.wrap n ≤ k.hi := by
  have pos : (0 : Int) < (1 <<< k.bits : Nat) := by cases k <;> decide
  have width : k.hi - k.lo = (1 <<< k.bits : Nat) - 1 := by cases k <;> decide
  have h₁ := Int.emod_nonneg (n - k.lo) (Int.ne_of_gt pos)
  have h₂ := Int.emod_lt_of_pos (n - k.lo) pos
  unfold wrap
  omega

def wrapped (k : IntKind) (n : Int) : k.Num :=
  ⟨k.wrap n, k.wrap_mem n⟩

end IntKind

end OneShot
