import OneShot.Conversion
import OneShot.Proofs.Json.Integers
import Mathlib.Data.Nat.Digits.Defs

/-! Conversion between integers and plain text. A number is read from any digits that have its value,
with a sign or without; of its texts one is canonical, and it is rendered as this one. -/

namespace OneShot

/-- The number that decimal digits stand for by their places, the last of them for ones. -/
def placeValue (ds : List Char) : Nat :=
  Nat.ofDigits 10 (ds.map digitValue).reverse

theorem digitsValue_eq_placeValue (ds : List Char) : digitsValue ds = placeValue ds := by
  induction ds using List.reverseRecOn with
  | nil => rfl
  | append_singleton ds c ih =>
    rw [Json.digitsValue_concat, ih, placeValue, placeValue, List.map_append, List.map_singleton,
      List.reverse_append, List.reverse_singleton, List.singleton_append, Nat.ofDigits_cons,
      Nat.add_comm]

theorem natural?_eq_some_iff {s : List Char} {n : Nat} :
    natural? s = some n ↔ Json.Digits s ∧ placeValue s = n := by
  have hd : (s.isEmpty || !s.all Char.isDigit) = true ↔ ¬ Json.Digits s := by
    simp [Json.Digits, or_iff_not_imp_left]
  rw [natural?, digitsValue_eq_placeValue]
  by_cases h : Json.Digits s
  · rw [if_neg (fun hb => hd.mp hb h), Option.some.injEq, and_iff_right h]
  · rw [if_pos (hd.mpr h)]
    simp [h]

/-- A run of digits does not begin with a sign. -/
theorem Json.Digits.ne_cons {ds s : List Char} {c : Char} (h : Json.Digits ds)
    (hc : c.isDigit = false) : ds ≠ c :: s := by
  rintro rfl
  exact absurd (h.2 c List.mem_cons_self) (by simp [hc])

namespace IntKind

/-- The numbers of a type of so many bits, by two's complement if it is signed. -/
def InRange (k : IntKind) (n : Int) : Prop :=
  if k.signed then -2 ^ (k.bits - 1) ≤ n ∧ n < 2 ^ (k.bits - 1) else 0 ≤ n ∧ n < 2 ^ k.bits

theorem inRange_iff {k : IntKind} {n : Int} : k.InRange n ↔ k.lo ≤ n ∧ n ≤ k.hi := by
  have hlo : k.lo = if k.signed then -2 ^ (k.bits - 1) else 0 := by cases k <;> decide
  have hhi : k.hi + 1 = if k.signed then 2 ^ (k.bits - 1) else 2 ^ k.bits := by cases k <;> decide
  rw [InRange]
  split <;> simp_all <;> omega

/-- A text of a number of any size: digits that have its value, with a sign that the type admits. -/
inductive Spells (k : IntKind) : List Char → Int → Prop
  | plain {ds : List Char} (h : Json.Digits ds) : Spells k ds (placeValue ds)
  | plus {ds : List Char} (h : Json.Digits ds) : Spells k ('+' :: ds) (placeValue ds)
  | minus {ds : List Char} (hk : k.signed = true) (h : Json.Digits ds) :
      Spells k ('-' :: ds) (-placeValue ds)

/-- The form that has no plus sign, no zero in front of other digits, and no minus on zero. -/
structure Canonical (text : List Char) : Prop where
  no_plus : text.head? ≠ some '+'
  no_zero_in_front : ∀ ds, text = ds ∨ text = '-' :: ds → ds.head? = some '0' → ds = ['0']
  no_minus_on_zero : text ≠ ['-', '0']

variable {k : IntKind} {text : List Char} {n : Int}

theorem integer?_of_digits (h : Json.Digits text) : k.integer? text = some (placeValue text) := by
  rw [integer?]
  · rw [natural?_eq_some_iff.mpr ⟨h, rfl⟩]
    rfl
  · exact fun s => h.ne_cons (by decide)
  · exact fun s => h.ne_cons (by decide)

theorem integer?_eq_some_iff : k.integer? text = some n ↔ Spells k text n := by
  constructor
  · intro h
    rw [integer?.eq_def] at h
    split at h
    · rename_i s
      obtain ⟨m, hm, rfl⟩ := Option.map_eq_some_iff.mp h
      obtain ⟨hd, rfl⟩ := natural?_eq_some_iff.mp hm
      exact .plus hd
    · rename_i s
      split at h
      · rename_i hk
        obtain ⟨m, hm, rfl⟩ := Option.map_eq_some_iff.mp h
        obtain ⟨hd, rfl⟩ := natural?_eq_some_iff.mp hm
        exact .minus hk hd
      · cases h
    · obtain ⟨m, hm, rfl⟩ := Option.map_eq_some_iff.mp h
      obtain ⟨hd, rfl⟩ := natural?_eq_some_iff.mp hm
      exact .plain hd
  · rintro (h | h | ⟨hk, h⟩)
    · exact integer?_of_digits h
    · rw [integer?, natural?_eq_some_iff.mpr ⟨h, rfl⟩]
      rfl
    · rw [integer?, if_pos hk, natural?_eq_some_iff.mpr ⟨h, rfl⟩]
      rfl

theorem parse?_eq_some_iff {p : String} {n : k.Num} :
    k.parse? p = some n ↔ Spells k p.toList n.val := by
  rw [parse?, Option.bind_eq_some_iff]
  constructor
  · rintro ⟨m, hm, hn⟩
    rw [Json.eq_of_ofInt? hn] at hm
    exact integer?_eq_some_iff.mp hm
  · intro h
    exact ⟨n.val, integer?_eq_some_iff.mpr h, ofInt?_val n⟩

theorem parse?_eq_none_iff {p : String} :
    k.parse? p = none ↔ ¬ ∃ n, k.InRange n ∧ Spells k p.toList n := by
  rw [Option.eq_none_iff_forall_ne_some, ← not_exists, not_iff_not]
  constructor
  · rintro ⟨n, hn⟩
    exact ⟨n.val, inRange_iff.mpr n.property, parse?_eq_some_iff.mp hn⟩
  · rintro ⟨n, hr, hs⟩
    exact ⟨⟨n, inRange_iff.mp hr⟩, parse?_eq_some_iff.mpr hs⟩

theorem canonical_of_isInteger (h : Json.IsInteger text n) : Canonical text := by
  rcases h with h | ⟨h, hz⟩
  · have hsign : ∀ {c s}, c.isDigit = false → text ≠ c :: s := h.1.ne_cons
    refine ⟨fun hh => ?_, fun ds he hh => ?_, hsign (by decide)⟩
    · obtain ⟨s, hs⟩ := List.head?_eq_some_iff.mp hh
      exact hsign (by decide) hs
    · rcases he with rfl | he
      · exact h.2 hh
      · exact absurd he (hsign (by decide))
  · refine ⟨nofun, fun ds he hh => ?_, fun he => hz (List.cons.inj he).2⟩
    rcases he with rfl | he
    · cases hh
    · obtain ⟨-, rfl⟩ := List.cons.inj he
      exact h.2 hh

theorem Spells.isInteger (h : Spells k text n) (hc : Canonical text) : Json.IsInteger text n := by
  rcases h with h | h | ⟨-, h⟩
  · rw [← digitsValue_eq_placeValue]
    exact .plain ⟨h, hc.no_zero_in_front _ (.inl rfl)⟩
  · exact absurd rfl hc.no_plus
  · rw [← digitsValue_eq_placeValue]
    exact .minus ⟨h, hc.no_zero_in_front _ (.inr rfl)⟩ fun hz => hc.no_minus_on_zero (by rw [hz])

/-- Of the texts of a number one is canonical. -/
theorem Spells.eq_decimalInt_iff (h : Spells k text n) : text = decimalInt n ↔ Canonical text := by
  rw [← Json.isInteger_iff]
  exact ⟨canonical_of_isInteger, h.isInteger⟩

theorem canonical_render (n : k.Num) : Canonical (k.render n).toList := by
  rw [render, String.toList_ofList]
  exact canonical_of_isInteger (Json.isInteger_iff.mpr rfl)

end IntKind

namespace ConversionTable

/-- The conversion of an integer type loses nothing and takes nothing else. -/
structure ExactFor (table : ConversionTable) (k : IntKind) : Prop where
  accepted : ∀ p n, table.convert (.int k) p = .ok n ↔ k.Spells p.toList n.val
  range : ∀ n : Int, (∃ m : k.Num, m.val = n) ↔ k.InRange n
  refused : ∀ p, (¬ ∃ n, k.InRange n ∧ k.Spells p.toList n) →
    ∃ reason, table.convert (.int k) p = .error (.unconvertible p k.name (some reason)) ∧
      reason.text = "not a valid " ++ k.name
  restored : ∀ n, ∃ p, table.render (.int k) n = some p ∧ table.convert (.int k) p = .ok n
  unchanged : ∀ p n, table.convert (.int k) p = .ok n →
    (table.render (.int k) n = some p ↔ IntKind.Canonical p.toList)
  /-- The canonical text is another one of the same number, and the number has no second one. -/
  normal : ∀ p n, table.convert (.int k) p = .ok n →
    ∃ q, table.render (.int k) n = some q ∧ IntKind.Canonical q.toList ∧
      k.Spells q.toList n.val ∧
      ∀ r : String, IntKind.Canonical r.toList → k.Spells r.toList n.val → r = q

variable {table : ConversionTable} {k : IntKind}

theorem convert_int (h : table.converter? (.int k) = some (.int k)) (p : String) :
    table.convert (.int k) p =
      match k.parse? p with
      | some n => .ok n
      | none => .error (.unconvertible p k.name (some (.invalid k.name))) := by
  rw [convert, h]
  dsimp only [Converter.int]
  cases k.parse? p <;> rfl

theorem render_int (h : table.converter? (.int k) = some (.int k)) (n : k.Num) :
    table.render (.int k) n = some (k.render n) := by
  rw [render, h]
  rfl

theorem convert_int_eq_ok_iff (h : table.converter? (.int k) = some (.int k)) {p : String}
    {n : k.Num} : table.convert (.int k) p = .ok n ↔ k.Spells p.toList n.val := by
  rw [convert_int h, ← IntKind.parse?_eq_some_iff]
  split <;> simp_all

/-- The default table converts every integer type exactly. -/
theorem integers_exact (k : IntKind) : standard.ExactFor k := by
  have h : standard.converter? (.int k) = some (.int k) := rfl
  have hok : ∀ p n, standard.convert (.int k) p = .ok n ↔ k.Spells p.toList n.val := fun p n =>
    convert_int_eq_ok_iff h
  refine ⟨hok, ?range, ?refused, ?restored, ?unchanged, ?normal⟩
  case range =>
    intro n
    rw [IntKind.inRange_iff]
    exact ⟨fun ⟨m, hm⟩ => hm ▸ m.property, fun hn => ⟨⟨n, hn⟩, rfl⟩⟩
  case refused =>
    intro p hp
    refine ⟨.invalid k.name, ?_, rfl⟩
    rw [convert_int h, IntKind.parse?_eq_none_iff.mpr hp]
  case restored =>
    intro n
    refine ⟨k.render n, render_int h n, ?_⟩
    rw [convert_int h, IntKind.parse?_render]
  case unchanged =>
    intro p n hp
    rw [render_int h, Option.some.injEq, ← ((hok p n).mp hp).eq_decimalInt_iff, IntKind.render,
      ← String.toList_inj, String.toList_ofList, eq_comm]
  case normal =>
    intro p n _
    refine ⟨k.render n, render_int h n, IntKind.canonical_render n, ?_, fun r hc hr => ?_⟩
    · exact IntKind.parse?_eq_some_iff.mp (IntKind.parse?_render n)
    · rw [IntKind.render, ← hr.eq_decimalInt_iff.mpr hc, String.ofList_toList]

/-- The lowest number of a type, with zeros in front. -/
example : IntKind.i8.parse? "-00128" = some ⟨-128, by decide⟩ ∧ IntKind.i8.parse? "128" = none := by
  decide

end ConversionTable

end OneShot
