import OneShot.Proofs.Json.Recognition
import Mathlib.Data.List.Induction

/-! Integers as they are written: digits without a zero in front, and a minus before what is not zero. A
number has one such text, and the readers of integers take no other. -/

namespace OneShot.Json

variable {text ds s r : List Char}

inductive IsInteger : List Char → Int → Prop
  | plain {ds : List Char} (h : Whole ds) : IsInteger ds (digitsValue ds)
  | minus {ds : List Char} (h : Whole ds) (hz : ds ≠ ['0']) :
      IsInteger ('-' :: ds) (-(digitsValue ds : Int))

/-! The digits of a number are those that it is written with. -/

theorem decimal_digitValue {c : Char} (h : c.isDigit = true) : decimal (digitValue c) = [c] := by
  have hb : 48 ≤ c.toNat ∧ c.toNat ≤ 57 := by
    simpa [Char.isDigit, UInt32.le_iff_toNat_le] using h
  obtain ⟨d, hd⟩ : ∃ d, c.toNat = 48 + d := ⟨c.toNat - 48, by omega⟩
  have hdigits : ∀ d < 10, decimal (digitValue (Char.ofNat (48 + d))) = [Char.ofNat (48 + d)] := by
    decide
  rw [← Char.ofNat_toNat c, hd]
  exact hdigits d (by omega)

theorem digitsValue_concat (ds : List Char) (c : Char) :
    digitsValue (ds ++ [c]) = 10 * digitsValue ds + digitValue c := by
  rw [digitsValue, List.foldl_append, digitsValue]
  simp [Nat.mul_comm]

theorem Whole.of_concat {c : Char} (h : Whole (ds ++ [c])) (hne : ds ≠ []) :
    Whole ds ∧ ds.head? ≠ some '0' := by
  have hhead : ds.head? ≠ some '0' := by
    intro hz
    have hall := h.2 (by rw [List.head?_append, hz]; rfl)
    have hlen := congrArg List.length hall
    rw [List.length_append, List.length_singleton, List.length_singleton] at hlen
    exact hne (List.length_eq_zero_iff.mp (by omega))
  exact ⟨⟨⟨hne, fun d hd => h.1.2 d (List.mem_append_left _ hd)⟩, fun hz => absurd hz hhead⟩, hhead⟩

theorem decimal_digitsValue (h : Whole ds) : decimal (digitsValue ds) = ds := by
  induction ds using List.reverseRecOn with
  | nil => exact absurd rfl h.1.1
  | append_singleton ds c ih =>
    have hc := h.1.2 c (List.mem_append_right _ List.mem_cons_self)
    by_cases hne : ds = []
    · subst hne
      have hv : digitsValue ([] ++ [c]) = digitValue c := by
        rw [digitsValue_concat]
        exact Nat.zero_add _
      rw [hv, decimal_digitValue hc, List.nil_append]
    · obtain ⟨hw, hhead⟩ := h.of_concat hne
      have hi := ih hw
      have hpos : 0 < digitsValue ds := by
        by_contra hz
        rw [Nat.eq_zero_of_not_pos hz] at hi
        rw [← hi] at hhead
        exact hhead rfl
      have hlt : digitValue c < 10 := by
        have hb : c.toNat ≤ 57 := by
          simpa [Char.isDigit, UInt32.le_iff_toNat_le] using (Bool.and_eq_true_iff.mp hc).2
        have hz : '0'.toNat = 48 := rfl
        rw [digitValue]
        omega
      have happend : decimal (digitsValue ds) ++ decimal (digitValue c) =
          decimal (10 * digitsValue ds + digitValue c) :=
        Nat.toDigits_append_toDigits (by omega) hpos hlt
      rw [digitsValue_concat, ← happend, hi, decimal_digitValue hc]

theorem whole_decimal (n : Nat) : Whole (decimal n) := by
  obtain ⟨d, ds, hd, -, hz⟩ := exists_decimal_eq_cons n
  refine ⟨⟨decimal_ne_nil n, fun c => isDigit_of_mem_decimal⟩, fun h => ?_⟩
  rw [hd] at h
  rw [hz (Option.some.inj h)]
  rfl

/-- An integer has one text. -/
theorem isInteger_iff {n : Int} : IsInteger text n ↔ text = decimalInt n := by
  constructor
  · rintro (h | ⟨h, hz⟩)
    · rw [decimalInt_of_nonneg (Int.natCast_nonneg _), Int.natAbs_natCast, decimal_digitsValue h]
    · have hne : digitsValue _ ≠ 0 := fun h0 => hz (by rw [← decimal_digitsValue h, h0]; rfl)
      rw [decimalInt_of_neg (by omega), Int.natAbs_neg, Int.natAbs_natCast, decimal_digitsValue h]
  · rintro rfl
    by_cases h : n < 0
    · have hn : n = -(digitsValue (decimal n.natAbs) : Int) := by
        rw [digitsValue_decimal]
        omega
      have hz : decimal n.natAbs ≠ ['0'] := fun hz => by
        have hv := digitsValue_decimal n.natAbs
        rw [hz] at hv
        have h0 : digitsValue ['0'] = 0 := rfl
        omega
      rw [decimalInt_of_neg h]
      have hi := IsInteger.minus (whole_decimal n.natAbs) hz
      rwa [← hn] at hi
    · have hn : n = (digitsValue (decimal n.natAbs) : Int) := by
        rw [digitsValue_decimal]
        omega
      rw [decimalInt_of_nonneg (by omega)]
      have hi := IsInteger.plain (whole_decimal n.natAbs)
      rwa [← hn] at hi

/-! Readers of integers. -/

theorem eq_of_ofInt? {k : IntKind} {m : Int} {n : k.Num} (h : k.ofInt? m = some n) : m = n.val := by
  rw [IntKind.ofInt?] at h
  split at h
  · cases h
    rfl
  · cases h

theorem Number.eq_of_ofInt? {m n : Int} {lo : -(1 <<< 63 : Nat) ≤ n} {hi : n < (1 <<< 64 : Nat)}
    (h : Number.ofInt? m = some (.int n lo hi)) : m = n := by
  rw [Number.ofInt?] at h
  split at h
  · exact Number.int.inj (Option.some.inj h)
  · cases h

theorem NumberText.toReal?_ne_int (t : NumberText) (negative : Bool) {n : Int}
    (lo : -(1 <<< 63 : Nat) ≤ n) (hi : n < (1 <<< 64 : Nat)) :
    t.toReal? negative ≠ some (.int n lo hi) := by
  intro h
  rw [toReal?] at h
  split at h
  · cases h
  · cases h

theorem NumberText.eq_of_toNumber? {t : NumberText} {negative : Bool} {n : Int}
    {lo : -(1 <<< 63 : Nat) ≤ n} {hi : n < (1 <<< 64 : Nat)}
    (h : t.toNumber? negative = some (.int n lo hi)) :
    t.fraction = none ∧ t.exponent = none ∧
      n = (if negative then -(digitsValue t.whole : Int) else digitsValue t.whole) ∧
      (negative = true → digitsValue t.whole ≠ 0) := by
  have hreal : t.toReal? negative ≠ some (.int n lo hi) := t.toReal?_ne_int negative lo hi
  rw [toNumber?] at h
  split at h
  · rename_i hf hx
    refine ⟨hf, hx, ?_⟩
    dsimp only at h
    split at h
    · exact absurd h hreal
    · rename_i hz
      split at h
      · rename_i m hm
        rw [Option.some.inj h] at hm
        refine ⟨(Number.eq_of_ofInt? hm).symm, fun hn h0 => hz ?_⟩
        simp [hn, h0]
      · exact absurd h hreal
  · exact absurd h hreal

theorem readNumber_int_sound {n : Int} {lo : -(1 <<< 63 : Nat) ≤ n} {hi : n < (1 <<< 64 : Nat)}
    (h : readNumber s = .ok (.int n lo hi, r)) : ∃ text, s = text ++ r ∧ IsInteger text n := by
  unfold readNumber at h
  split at h
  rename_i negative s' hsign
  obtain ⟨⟨t, r'⟩, hscan, h⟩ := exists_of_bind_eq_ok h
  dsimp only at h
  split at h
  · rename_i v hv
    cases h
    obtain ⟨hf, hx, hn, hz⟩ := NumberText.eq_of_toNumber? hv
    obtain ⟨fraction, power, hs', hw, -, -, hfn, hpn⟩ := scanNumber_sound hscan
    rw [hfn hf, hpn hx, List.nil_append, List.nil_append] at hs'
    split at hsign
    · cases hsign
      refine ⟨'-' :: t.whole, by rw [hs', List.cons_append], hn ▸ .minus hw fun h0 => ?_⟩
      exact hz rfl (by rw [h0]; rfl)
    · cases hsign
      exact ⟨t.whole, hs', hn ▸ .plain hw⟩
  · cases h

theorem readNarrow_sound {k : IntKind} {n : k.Num} (h : readNarrow k s = .ok (n, r)) :
    ∃ w text, s = w ++ (text ++ r) ∧ Space w ∧ IsInteger text n.val := by
  obtain ⟨w, hw, hs⟩ := exists_skipSpace s
  rw [readNarrow] at h
  split at h
  · cases h
  · rename_i c t hk
    rw [hk] at hs
    split at h
    · obtain ⟨⟨v, r'⟩, hread, h⟩ := exists_of_bind_eq_ok h
      dsimp only at h
      split at h
      · rename_i m lo hi
        split at h
        · rename_i n' hn
          cases h
          obtain ⟨text, ht, hi⟩ := readNumber_int_sound hread
          rw [eq_of_ofInt? hn] at hi
          exact ⟨w, text, by rw [hs, ht], hw, hi⟩
        · cases h
      · cases h
    · cases h

theorem readWide_sound {k : IntKind} (hk : k.signed = false) {n : k.Num}
    (h : readWide k s = .ok (n, r)) :
    ∃ w text, s = w ++ (text ++ r) ∧ Space w ∧ IsInteger text n.val := by
  obtain ⟨w, hw, hs⟩ := exists_skipSpace s
  unfold readWide at h
  split at h
  · cases h
  · rename_i c t hskip
    rw [hskip] at hs
    dsimp only at h
    rcases ite_eq_iff.mp h with ⟨-, h⟩ | ⟨-, h⟩
    · rw [if_neg (by simp [hk])] at h
      cases h
    · obtain ⟨⟨ds, r'⟩, hscan, h⟩ := exists_of_bind_eq_ok h
      dsimp only at h
      split at h
      · rename_i n' hn
        cases h
        obtain ⟨ht, hwhole⟩ := scanWhole_sound hscan
        have hv : (digitsValue ds : Int) = n.val := eq_of_ofInt? hn
        exact ⟨w, ds, by rw [hs, ht], hw, hv ▸ .plain hwhole⟩
      · cases h

/-- An integer literal for a number of the kind. -/
def IsNum (k : IntKind) (text : List Char) (n : k.Num) : Prop :=
  IsInteger text n.val

/-- The signed integers of 128 bits are left out: they alone may be written as a negative zero. -/
theorem recognizes_int {k : IntKind} (hk : k ≠ .i128) : Recognizes (readInt k) (IsNum k) where
  space w s hw := by
    rw [readInt]
    split
    · simp only [readWide, hw.skipSpace_append]
    · simp only [readNarrow, hw.skipSpace_append]
  opens text n h := by
    obtain ⟨c, t, hc, hstart⟩ := opens_decimalInt n.val
    exact ⟨c, t, (isInteger_iff.mp h).trans hc, by simp [opensValue, hstart]⟩
  complete text n r h hr := by
    rw [isInteger_iff.mp h]
    exact readInt_decimalInt n hr
  sound s n r h := by
    rw [readInt] at h
    split at h
    · rename_i hbits
      have hsigned : k.signed = false := by
        revert hk hbits
        cases k <;> decide
      exact readWide_sound hsigned h
    · exact readNarrow_sound h

end OneShot.Json
