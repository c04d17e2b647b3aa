/-! White space as Unicode has it, and the cutting and trimming of text built on it. Text that is
being taken apart is a list of characters. -/

namespace OneShot

/-- The twenty-five characters with the property `White_Space`. -/
def isBlank (c : Char) : Bool :=
  let n := c.toNat
  (0x09 ≤ n && n ≤ 0x0D) || n == 0x20 || n == 0x85 || n == 0xA0 || n == 0x1680 ||
    (0x2000 ≤ n && n ≤ 0x200A) || n == 0x2028 || n == 0x2029 || n == 0x202F ||
    n == 0x205F || n == 0x3000

def strip (p : Char → Bool) (s : List Char) : List Char :=
  ((s.dropWhile p).reverse.dropWhile p).reverse

/-- The pieces between the characters satisfying `p`, one more than there are of those. -/
def cutAt (p : Char → Bool) : List Char → List (List Char)
  | [] => [[]]
  | c :: s =>
    if p c then [] :: cutAt p s
    else match cutAt p s with
      | [] => [[c]]
      | w :: ws => (c :: w) :: ws

/-- Cuts at the first occurrence of `c`, which is dropped. -/
def cutFirst (c : Char) : List Char → Option (List Char × List Char)
  | [] => none
  | d :: s => if d = c then some ([], s) else (cutFirst c s).map fun (l, r) => (d :: l, r)

def trim (s : String) : String :=
  String.ofList (strip isBlank s.toList)

def words (s : String) : List String :=
  ((cutAt isBlank s.toList).filter fun w => !w.isEmpty).map String.ofList

theorem cutAt_ne_nil (p : Char → Bool) (s : List Char) : cutAt p s ≠ [] := by
  cases s with
  | nil => simp [cutAt]
  | cons c s =>
    simp only [cutAt]
    split
    · simp
    · split <;> simp

end OneShot
