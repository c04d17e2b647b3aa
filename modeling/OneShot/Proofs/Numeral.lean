import OneShot.Numeral.IntKind
import OneShot.Numeral.Real

/-! The decimal text of a number reads back as the number. It has digits only, and no zero in front
of others. -/

namespace OneShot

theorem digitsValue_decimal (n : Nat) : digitsValue (decimal n) = n := by
  have h : ∀ (s : List Char) (m : Nat),
      s.foldl (fun n c => n * 10 + digitValue c) m = Nat.ofDigitChars 10 s m := by
    intro s m
    simp only [Nat.ofDigitChars_eq_foldl, digitValue, Nat.mul_comm]
  rw [digitsValue, h, decimal, Nat.ofDigitChars_ten_toDigits]

theorem isDigit_of_mem_decimal {n : Nat} {c : Char} (h : c ∈ decimal n) : c.isDigit = true :=
  Nat.isDigit_of_mem_toDigits (by omega) (by omega) h

theorem decimal_ne_nil (n : Nat) : decimal n ≠ [] :=
  Nat.toDigits_ne_nil

theorem head?_decimal_ne_zero {n : Nat} (h : 0 < n) : (decimal n).head? ≠ some '0' := by
  induction n using Nat.strongRecOn with
  | ind n ih =>
    by_cases hn : n < 10
    · have hd : ∀ m < 10, 0 < m → Nat.digitChar m ≠ '0' := by decide
      simpa [decimal, Nat.toDigits_of_lt_base hn] using hd n hn h
    · have hi := ih (n / 10) (by omega) (by omega)
      rw [decimal, Nat.toDigits_of_base_le (by omega) (by omega), List.head?_append]
      obtain ⟨d, ds, hd⟩ := List.exists_cons_of_ne_nil (decimal_ne_nil (n / 10))
      rw [hd] at hi
      rw [decimal] at hd
      simpa [hd] using hi

/-- The digits of a text end where something else follows them. -/
theorem spanDigits_append_of_isDigit {ds r : List Char} (hd : ∀ c ∈ ds, c.isDigit = true)
    (hr : ∀ c ∈ r.head?, c.isDigit = false) : spanDigits (ds ++ r) = (ds, r) := by
  have hn : r.takeWhile Char.isDigit = [] ∧ r.dropWhile Char.isDigit = r := by
    cases r with
    | nil => exact ⟨rfl, rfl⟩
    | cons c r =>
      have hc := hr c rfl
      simp [hc]
  rw [spanDigits, List.takeWhile_append_of_pos hd, List.dropWhile_append_of_pos hd, hn.1, hn.2,
    List.append_nil]

theorem natural?_decimal (n : Nat) : natural? (decimal n) = some n := by
  have he : (decimal n).isEmpty = false := List.isEmpty_eq_false_iff.mpr (decimal_ne_nil n)
  have ha : (decimal n).all Char.isDigit = true :=
    List.all_eq_true.mpr fun _ => isDigit_of_mem_decimal
  simp [natural?, he, ha, digitsValue_decimal]

/-- The decimal text of a number with its first digit. -/
theorem exists_decimal_eq_cons (n : Nat) :
    ∃ d ds, decimal n = d :: ds ∧ d.isDigit = true ∧ (d = '0' → n = 0) := by
  obtain ⟨d, ds, hd⟩ := List.exists_cons_of_ne_nil (decimal_ne_nil n)
  refine ⟨d, ds, hd, isDigit_of_mem_decimal (hd ▸ List.mem_cons_self), fun hz => ?_⟩
  by_cases h : 0 < n
  · have hh := head?_decimal_ne_zero h
    rw [hd, hz] at hh
    exact absurd rfl hh
  · omega

theorem decimalInt_of_nonneg {n : Int} (h : 0 ≤ n) : decimalInt n = decimal n.natAbs := by
  rw [decimalInt, if_neg (by omega)]

theorem decimalInt_of_neg {n : Int} (h : n < 0) : decimalInt n = '-' :: decimal n.natAbs := by
  rw [decimalInt, if_pos h]

namespace IntKind

theorem signed_of_neg {k : IntKind} (n : k.Num) (h : n.val < 0) : k.signed = true := by
  have hl := n.property.1
  cases hs : k.signed with
  | true => rfl
  | false =>
    simp only [lo, hs, Bool.false_eq_true, if_false] at hl
    omega

theorem ofInt?_val {k : IntKind} (n : k.Num) : k.ofInt? n.val = some n := by
  rw [ofInt?, dif_pos n.property]

theorem integer?_decimalInt {k : IntKind} (n : k.Num) :
    k.integer? (decimalInt n.val) = some n.val := by
  by_cases h : n.val < 0
  · rw [decimalInt_of_neg h]
    simp only [integer?, signed_of_neg n h, if_true, natural?_decimal, Option.map_some]
    congr 1
    simp only [Int.ofNat_eq_natCast]
    omega
  · obtain ⟨d, ds, hd, hdigit, -⟩ := exists_decimal_eq_cons n.val.natAbs
    have hv : Int.ofNat n.val.natAbs = n.val := by
      simp only [Int.ofNat_eq_natCast]
      omega
    have hn := natural?_decimal n.val.natAbs
    rw [decimalInt_of_nonneg (by omega)]
    rw [hd] at hn ⊢
    -- A digit is no sign.
    have hs : integer? k (d :: ds) = (natural? (d :: ds)).map Int.ofNat := by
      rw [integer?]
      · rintro s he
        obtain ⟨rfl, -⟩ := List.cons.inj he
        exact absurd hdigit (by decide)
      · rintro s he
        obtain ⟨rfl, -⟩ := List.cons.inj he
        exact absurd hdigit (by decide)
    rw [hs, hn, Option.map_some, hv]

/-- Every number reads back from its plain text. -/
theorem parse?_render {k : IntKind} (n : k.Num) : k.parse? (k.render n) = some n := by
  rw [parse?, render, String.toList_ofList, integer?_decimalInt, Option.bind_some, ofInt?_val]

end IntKind

/-! The text of a real has digits, letters, signs and points, so neither a quote nor the end of a
line. -/

def IsRealChar (c : Char) : Prop :=
  c.isDigit = true ∨ c ∈ ['.', '+', '-', 'e', 'n', 'u', 'l']

instance : DecidablePred IsRealChar := fun c =>
  inferInstanceAs (Decidable (c.isDigit = true ∨ c ∈ _))

theorem isRealChar_of_all {s : List Char} (h : (s.all fun c => decide (IsRealChar c)) = true) :
    ∀ c ∈ s, IsRealChar c :=
  fun c hc => of_decide_eq_true (List.all_eq_true.mp h c hc)

theorem isRealChar_of_mem_decimal {n : Nat} : ∀ c ∈ decimal n, IsRealChar c :=
  fun _ h => .inl (isDigit_of_mem_decimal h)

theorem quote_not_mem_decimal (n : Nat) : '"' ∉ decimal n := fun h =>
  absurd (isRealChar_of_mem_decimal _ h) (by decide)

theorem newline_not_mem_decimal (n : Nat) : '\n' ∉ decimal n := fun h =>
  absurd (isRealChar_of_mem_decimal _ h) (by decide)

namespace RealLayout

theorem isRealChar_of_mem_place (l : RealLayout) {ds : List Char} (h : ∀ c ∈ ds, IsRealChar c)
    (e : Int) : ∀ c ∈ l.place ds e, IsRealChar c := by
  have hp : ∀ c ∈ if l.pointed then ['.', '0'] else [], IsRealChar c :=
    isRealChar_of_all (by split <;> decide)
  have hz : ∀ n, ∀ c ∈ List.replicate n '0', IsRealChar c := fun n c hc => by
    rw [List.eq_of_mem_replicate hc]
    decide
  have ht : ∀ n, ∀ c ∈ ds.take n, IsRealChar c := fun n c hc => h c (List.mem_of_mem_take hc)
  have hd : ∀ n, ∀ c ∈ ds.drop n, IsRealChar c := fun n c hc => h c (List.mem_of_mem_drop hc)
  simp only [place]
  split
  · exact List.forall_mem_append.mpr ⟨List.forall_mem_append.mpr ⟨h, hz _⟩, hp⟩
  · split
    · exact List.forall_mem_append.mpr ⟨ht _, List.forall_mem_cons.mpr ⟨by decide, hd _⟩⟩
    · exact List.forall_mem_cons.mpr ⟨by decide, List.forall_mem_cons.mpr ⟨by decide,
        List.forall_mem_append.mpr ⟨hz _, h⟩⟩⟩

theorem isRealChar_of_mem_scientific {ds : List Char} (h : ∀ c ∈ ds, IsRealChar c) (power : Int) :
    ∀ c ∈ scientific ds power, IsRealChar c := by
  have hs : IsRealChar (if power < 0 then '-' else '+') := by split <;> decide
  refine List.forall_mem_append.mpr ⟨?_, List.forall_mem_cons.mpr ⟨by decide,
    List.forall_mem_cons.mpr ⟨hs, isRealChar_of_mem_decimal⟩⟩⟩
  split
  · exact nofun
  · exact h
  · obtain ⟨hd, hds⟩ := List.forall_mem_cons.mp h
    exact List.forall_mem_cons.mpr ⟨hd, List.forall_mem_cons.mpr ⟨by decide, hds⟩⟩

theorem isRealChar_of_mem_write (l : RealLayout) (k : Nat) (e : Int) :
    ∀ c ∈ l.write k e, IsRealChar c := by
  simp only [write]
  split
  · exact l.isRealChar_of_mem_place isRealChar_of_mem_decimal e
  · split
    · exact l.isRealChar_of_mem_place isRealChar_of_mem_decimal e
    · exact isRealChar_of_mem_scientific isRealChar_of_mem_decimal _

end RealLayout

namespace Encoded

theorem isRealChar_of_mem_json (x : Encoded) (f : BinaryFormat) (l : RealLayout) :
    ∀ c ∈ x.json f l, IsRealChar c := by
  have hm : ∀ c ∈ if x.negative then ['-'] else [], IsRealChar c :=
    isRealChar_of_all (by split <;> decide)
  rw [json]
  split
  · exact isRealChar_of_all (by decide)
  · exact List.forall_mem_append.mpr ⟨hm, l.isRealChar_of_mem_write _ _⟩

theorem quote_not_mem_json (x : Encoded) (f : BinaryFormat) (l : RealLayout) : '"' ∉ x.json f l :=
  fun h => absurd (x.isRealChar_of_mem_json f l _ h) (by decide)

theorem newline_not_mem_json (x : Encoded) (f : BinaryFormat) (l : RealLayout) :
    '\n' ∉ x.json f l :=
  fun h => absurd (x.isRealChar_of_mem_json f l _ h) (by decide)

end Encoded

end OneShot
