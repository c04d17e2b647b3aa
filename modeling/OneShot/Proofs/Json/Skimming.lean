import OneShot.Proofs.Json.Grammar
import OneShot.Proofs.Json.Written

/-! Reading past a value takes exactly the texts of the grammar. A reader that stops tells how far a text
of the grammar went; a text of the grammar is read to its end, whatever follows it that does not go on
with a number. -/

namespace OneShot.Json

/-! Numbers. -/

variable {early : Fault} {s r ds : List Char}

theorem scanDigits_sound (h : scanDigits early s = .ok (ds, r)) : s = ds ++ r ∧ Digits ds := by
  cases s with
  | nil => cases h
  | cons c s =>
    rw [scanDigits] at h
    split at h
    · rename_i hc
      have hs := spanDigits_append (c :: s)
      have hd := fun d => isDigit_of_mem_spanDigits (s := c :: s) (c := d)
      have hn : (spanDigits (c :: s)).1 ≠ [] := by simp [spanDigits, hc]
      rw [Except.ok.inj h] at hs hd hn
      exact ⟨hs.symm, hn, hd⟩
    · cases h

theorem scanDigits_complete (hd : Digits ds) (hr : ∀ c ∈ r.head?, c.isDigit = false) :
    scanDigits early (ds ++ r) = .ok (ds, r) := by
  have hs := spanDigits_append_of_isDigit hd.2 hr
  obtain ⟨c, ds, rfl⟩ := List.exists_cons_of_ne_nil hd.1
  rw [List.cons_append] at hs ⊢
  rw [scanDigits, if_pos (hd.2 c List.mem_cons_self), hs]

theorem digits_zero : Digits ['0'] :=
  ⟨by simp, by simp⟩

theorem scanWhole_sound (h : scanWhole early s = .ok (ds, r)) : s = ds ++ r ∧ Whole ds := by
  cases s with
  | nil => cases h
  | cons c s =>
    by_cases hc : c = '0'
    · subst hc
      have hz : Whole ['0'] := ⟨digits_zero, fun _ => rfl⟩
      cases s with
      | nil =>
        cases h
        exact ⟨rfl, hz⟩
      | cons d s =>
        simp only [scanWhole, if_true] at h
        split at h
        · cases h
        · cases h
          exact ⟨rfl, hz⟩
    · simp only [scanWhole, if_neg hc] at h
      split at h
      · rename_i hd
        have hscan : scanDigits early (c :: s) = .ok (ds, r) := by rw [scanDigits, if_pos hd, h]
        have hs := scanDigits_sound hscan
        refine ⟨hs.1, hs.2, fun hz => ?_⟩
        obtain ⟨e, ds, rfl⟩ := List.exists_cons_of_ne_nil hs.2.1
        obtain ⟨rfl, -⟩ := List.cons.inj hs.1
        exact absurd (Option.some.inj hz) hc
      · cases h

theorem scanWhole_complete (hw : Whole ds) (hr : ∀ c ∈ r.head?, c.isDigit = false) :
    scanWhole early (ds ++ r) = .ok (ds, r) := by
  have hs := spanDigits_append_of_isDigit hw.1.2 hr
  obtain ⟨c, t, rfl⟩ := List.exists_cons_of_ne_nil hw.1.1
  by_cases hc : c = '0'
  · subst hc
    rw [hw.2 rfl]
    cases r with
    | nil => rfl
    | cons d r => simp [scanWhole, hr d rfl]
  · rw [List.cons_append] at hs ⊢
    simp only [scanWhole, if_neg hc, if_pos (hw.1.2 c List.mem_cons_self), hs]

theorem scanFraction_sound {f : Option (List Char)} (h : scanFraction early s = .ok (f, r)) :
    ∃ fraction, s = fraction ++ r ∧ Fraction fraction ∧ (f = none → fraction = []) := by
  unfold scanFraction at h
  split at h
  · obtain ⟨⟨ds, r'⟩, hd, he⟩ := exists_of_map_eq_ok h
    cases he
    obtain ⟨rfl, hdigits⟩ := scanDigits_sound hd
    exact ⟨'.' :: ds, rfl, .point hdigits, nofun⟩
  · cases h
    exact ⟨[], rfl, .absent, fun _ => rfl⟩

theorem scanFraction_complete {fraction : List Char} (hf : Fraction fraction)
    (hr : ∀ c ∈ r.head?, c.isDigit = false ∧ c ≠ '.') :
    ∃ f, scanFraction early (fraction ++ r) = .ok (f, r) := by
  cases hf with
  | absent =>
    refine ⟨none, ?_⟩
    cases r with
    | nil => rfl
    | cons c r => simp [scanFraction, (hr c rfl).2]
  | @point ds hd =>
    refine ⟨some ds, ?_⟩
    simp [scanFraction, scanDigits_complete hd fun c hc => (hr c hc).1, Except.map]

theorem scanExponent_sound {x : Option Exponent} (h : scanExponent early s = .ok (x, r)) :
    ∃ power, s = power ++ r ∧ Power power ∧ (x = none → power = []) := by
  unfold scanExponent at h
  split at h
  · rename_i e s
    split at h
    · rename_i he
      split at h <;> obtain ⟨⟨ds, r'⟩, hd, hx⟩ := exists_of_map_eq_ok h <;> cases hx <;>
        obtain ⟨rfl, hdigits⟩ := scanDigits_sound hd
      · exact ⟨e :: (['+'] ++ ds), rfl, .exponent he (.inr (.inl rfl)) hdigits, nofun⟩
      · exact ⟨e :: (['-'] ++ ds), rfl, .exponent he (.inr (.inr rfl)) hdigits, nofun⟩
      · exact ⟨e :: ([] ++ ds), rfl, .exponent he (.inl rfl) hdigits, nofun⟩
    · cases h
      exact ⟨[], rfl, .absent, fun _ => rfl⟩
  · cases h
    exact ⟨[], rfl, .absent, fun _ => rfl⟩

theorem scanExponent_complete {power : List Char} (hp : Power power) (hr : EndsNumber r) :
    ∃ x, scanExponent early (power ++ r) = .ok (x, r) := by
  cases hp with
  | absent =>
    refine ⟨none, ?_⟩
    cases r with
    | nil => rfl
    | cons c r => simp [scanExponent, (hr c rfl).2.2]
  | @exponent e sign ds he hs hd =>
    have hscan : scanDigits early (ds ++ r) = .ok (ds, r) :=
      scanDigits_complete hd hr.isDigit_head
    rcases hs with rfl | rfl | rfl
    · -- Without a sign the digits begin at once.
      obtain ⟨d, ds, rfl⟩ := List.exists_cons_of_ne_nil hd.1
      have hdigit := hd.2 d List.mem_cons_self
      have hplus : d ≠ '+' := fun h => absurd (h ▸ hdigit) (by decide)
      have hminus : d ≠ '-' := fun h => absurd (h ▸ hdigit) (by decide)
      rw [List.cons_append] at hscan
      exact ⟨some ⟨false, d :: ds⟩, by simp [scanExponent, he, hplus, hminus, hscan, Except.map]⟩
    · exact ⟨some ⟨false, ds⟩, by simp [scanExponent, he, hscan, Except.map]⟩
    · exact ⟨some ⟨true, ds⟩, by simp [scanExponent, he, hscan, Except.map]⟩

theorem scanNumber_sound {t : NumberText} (h : scanNumber early s = .ok (t, r)) :
    ∃ fraction power, s = t.whole ++ (fraction ++ (power ++ r)) ∧ Whole t.whole ∧
      Fraction fraction ∧ Power power ∧ (t.fraction = none → fraction = []) ∧
        (t.exponent = none → power = []) := by
  obtain ⟨⟨whole, s'⟩, hw, h⟩ := exists_of_bind_eq_ok h
  obtain ⟨⟨f, s''⟩, hf, h⟩ := exists_of_bind_eq_ok h
  obtain ⟨⟨x, s'''⟩, hx, h⟩ := exists_of_bind_eq_ok h
  cases h
  obtain ⟨rfl, hwhole⟩ := scanWhole_sound hw
  obtain ⟨fraction, rfl, hfraction, hfn⟩ := scanFraction_sound hf
  obtain ⟨power, rfl, hpower, hpn⟩ := scanExponent_sound hx
  exact ⟨fraction, power, rfl, hwhole, hfraction, hpower, hfn, hpn⟩

theorem Power.head_append {power : List Char} (hp : Power power) (hr : EndsNumber r) :
    ∀ c ∈ (power ++ r).head?, c.isDigit = false ∧ c ≠ '.' := by
  cases hp with
  | absent => exact fun c hc => ⟨(hr c hc).1, (hr c hc).2.1⟩
  | exponent he =>
    intro c hc
    cases hc
    rcases he with rfl | rfl <;> decide

theorem Fraction.head_append {fraction : List Char} (hf : Fraction fraction)
    (hr : ∀ c ∈ r.head?, c.isDigit = false ∧ c ≠ '.') :
    ∀ c ∈ (fraction ++ r).head?, c.isDigit = false := by
  cases hf with
  | absent => exact fun c hc => (hr c hc).1
  | point =>
    intro c hc
    cases hc
    decide

theorem scanNumber_complete {whole fraction power : List Char} (hw : Whole whole)
    (hf : Fraction fraction) (hp : Power power) (hr : EndsNumber r) :
    ∃ t, scanNumber early (whole ++ (fraction ++ (power ++ r))) = .ok (t, r) := by
  have hpower := hp.head_append hr
  obtain ⟨f, hscan⟩ : ∃ f, scanFraction early (fraction ++ (power ++ r)) = .ok (f, power ++ r) :=
    scanFraction_complete hf hpower
  obtain ⟨x, hx⟩ : ∃ x, scanExponent early (power ++ r) = .ok (x, r) := scanExponent_complete hp hr
  refine ⟨⟨whole, f, x⟩, ?_⟩
  simp only [scanNumber, scanWhole_complete hw (hf.head_append hpower), bind_ok, hscan, hx]
  rfl

/-! Pieces. -/

theorem scanWord_sound {word : List Char} (h : scanWord word s = .ok r) : s = word ++ r := by
  induction word generalizing s with
  | nil =>
    cases h
    rfl
  | cons l word ih =>
    cases s with
    | nil => cases h
    | cons c s =>
      rw [scanWord] at h
      split at h
      · rename_i hc
        rw [hc, ih h, List.cons_append]
      · cases h

theorem scanWord_append (word r : List Char) : scanWord word (word ++ r) = .ok r := by
  induction word with
  | nil => rfl
  | cons l word ih => rw [List.cons_append, scanWord, if_pos rfl, ih]

section

variable {α : Type} {Piece : List Char → α → Prop} {rest : List Char} {as : List α}

theorem Space.endsNumber_append {w : List Char} (hw : Space w) (hr : EndsNumber r) :
    EndsNumber (w ++ r) := by
  cases w with
  | nil => exact hr
  | cons c w =>
    intro d hd
    cases hd
    have hc := hw c List.mem_cons_self
    simp only [List.mem_cons, List.not_mem_nil, or_false] at hc
    rcases hc with rfl | rfl | rfl | rfl <;> decide

theorem Tail.endsNumber (h : Tail Piece rest as) (hr : Delimited r) :
    EndsNumber (rest ++ r) := by
  cases h with
  | done hw => exact hw.endsNumber_append hr.endsNumber
  | @next w v p rest a as hw =>
    have hcomma : Delimited (',' :: (v ++ (p ++ rest)) ++ r) := .inl rfl
    rw [List.append_assoc]
    exact hw.endsNumber_append hcomma.endsNumber

theorem Tail.length_le (h : Tail Piece rest as) : as.length ≤ rest.length := by
  induction h with
  | done => exact Nat.zero_le _
  | next _ _ _ _ ih =>
    simp only [List.length_cons, List.length_append]
    omega

theorem Tail.size_le {size : α → Nat} (hs : ∀ p a, Piece p a → size a ≤ p.length)
    (h : Tail Piece rest as) : ∀ a ∈ as, size a ≤ rest.length := by
  induction h with
  | done => exact fun a ha => absurd ha List.not_mem_nil
  | next _ _ hp _ ih =>
    intro b hb
    simp only [List.length_cons, List.length_append]
    rcases List.mem_cons.mp hb with rfl | hb
    · have hl := hs _ _ hp
      omega
    · have hl := ih b hb
      omega

end

/-- What a reader passes over is white space and a text of a form. -/
def SkimsOnly (item : List Char → Except Stop (List Char)) (Form : List Char → Prop) : Prop :=
  ∀ s r, item s = .ok r → ∃ w text, s = w ++ (text ++ r) ∧ Space w ∧ Form text

/-- A reader passes over a text, whatever follows it that does not go on with a number. -/
def Skims (item : List Char → Except Stop (List Char)) (text : List Char) : Prop :=
  ∀ w r, Space w → EndsNumber r → item (w ++ (text ++ r)) = .ok r

section

variable {item : List Char → Except Stop (List Char)} {Form : List Char → Prop} {n : Nat}

theorem skimItems_sound (hi : SkimsOnly item Form) (h : skimItems item n s = .ok r) :
    ∃ w text rest items, s = w ++ (text ++ (rest ++ ']' :: r)) ∧ Space w ∧ Tail Eq rest items ∧
      ∀ i ∈ text :: items, Form i := by
  induction n generalizing s with
  | zero => cases h
  | succ n ih =>
    obtain ⟨s', hs', h⟩ := exists_of_bind_eq_ok h
    obtain ⟨w, text, hs, hw, ht⟩ := hi _ _ hs'
    obtain ⟨v, hv, he⟩ := exists_skipSpace s'
    split at h
    · cases h
    · rename_i hk
      cases h
      rw [hk] at he
      exact ⟨w, text, v, [], by rw [hs, he], hw, .done hv, by simpa using ht⟩
    · rename_i hk
      obtain ⟨w', text', rest, items, rfl, hw', htail, hforms⟩ := ih h
      rw [hk] at he
      exact ⟨w, text, v ++ ',' :: (w' ++ (text' ++ rest)), text' :: items, by simp [hs, he], hw,
        .next hv hw' rfl htail, List.forall_mem_cons.mpr ⟨ht, hforms⟩⟩
    · cases h

theorem skimItems_complete {text w rest : List Char} {items : List (List Char)}
    (ht : Tail Eq rest items) (hi : ∀ i ∈ text :: items, Skims item i) (hw : Space w)
    (hn : items.length < n) (r : List Char) :
    skimItems item n (w ++ (text ++ (rest ++ ']' :: r))) = .ok r := by
  induction ht generalizing text w n with
  | @done v hv =>
    obtain ⟨n, rfl⟩ := Nat.exists_eq_add_one_of_ne_zero (Nat.ne_of_gt hn)
    have hend : Delimited (']' :: r) := .inr (.inl rfl)
    have hread := hi text List.mem_cons_self w _ hw (hv.endsNumber_append hend.endsNumber)
    have hk : skipSpace (v ++ ']' :: r) = ']' :: r := hv.skipSpace_append _
    simp only [skimItems, hread, bind_ok, hk]
    rfl
  | @next v w' p rest text' items hv hw' hp htail ih =>
    subst hp
    obtain ⟨n, rfl⟩ := Nat.exists_eq_add_one_of_ne_zero (Nat.ne_of_gt (Nat.zero_lt_of_lt hn))
    have hend : Delimited (',' :: (w' ++ (p ++ (rest ++ ']' :: r)))) := .inl rfl
    have hread := hi text List.mem_cons_self w _ hw (hv.endsNumber_append hend.endsNumber)
    have hk : skipSpace (v ++ ',' :: (w' ++ (p ++ (rest ++ ']' :: r)))) =
        ',' :: (w' ++ (p ++ (rest ++ ']' :: r))) := hv.skipSpace_append _
    have hrest := ih (fun i hm => hi i (List.mem_cons_of_mem _ hm)) hw' (Nat.lt_of_succ_lt_succ hn)
    simp only [List.append_assoc, List.cons_append, skimItems, hread, bind_ok, hk, hrest]

theorem skimMembers_sound (hi : SkimsOnly item Form) (h : skimMembers item n s = .ok r) :
    ∃ w p m rest members, s = w ++ (p ++ (rest ++ '\x7d' :: r)) ∧ Space w ∧ Member Eq p m ∧
      Tail (Member Eq) rest members ∧ ∀ m' ∈ m :: members, StringBody m'.1 ∧ Form m'.2 := by
  induction n generalizing s with
  | zero => cases h
  | succ n ih =>
    obtain ⟨w, hw, hs⟩ := exists_skipSpace s
    rw [skimMembers] at h
    split at h
    · cases h
    · rename_i s₁ hk
      rw [hk] at hs
      obtain ⟨s₂, hstring, h⟩ := exists_of_bind_eq_ok h
      obtain ⟨body, hs₁, hb⟩ := literal_of_skimString hstring
      obtain ⟨v, hv, hs₂⟩ := exists_skipSpace s₂
      split at h
      · cases h
      · rename_i s₃ hk₃
        rw [hk₃] at hs₂
        obtain ⟨s₄, hitem, h⟩ := exists_of_bind_eq_ok h
        obtain ⟨v', value, hs₃, hv', hvalue⟩ := hi _ _ hitem
        obtain ⟨u, hu, hs₄⟩ := exists_skipSpace s₄
        have hm : Member Eq ('"' :: (body ++ '"' :: (v ++ ':' :: (v' ++ value)))) (body, value) :=
          .mk rfl hv hv'
        have hform : StringBody body ∧ Form value := ⟨stringBody_iff.mpr hb, hvalue⟩
        split at h
        · cases h
        · rename_i hk₄
          cases h
          rw [hk₄] at hs₄
          exact ⟨w, _, _, u, [], by simp [hs, hs₁, hs₂, hs₃, hs₄], hw, hm, .done hu, by simpa using hform⟩
        · rename_i hk₄
          obtain ⟨w', p, m, rest, members, rfl, hw', hp, htail, hforms⟩ := ih h
          rw [hk₄] at hs₄
          exact ⟨w, _, _, u ++ ',' :: (w' ++ (p ++ rest)), m :: members, by simp [hs, hs₁, hs₂, hs₃, hs₄],
            hw, hm, .next hu hw' hp htail, List.forall_mem_cons.mpr ⟨hform, hforms⟩⟩
        · cases h
      · cases h
    · cases h

/-- What is left to pass over of an object behind one of its members. -/
def skimBehind (item : List Char → Except Stop (List Char)) (n : Nat) :
    List Char → Except Stop (List Char)
  | [] => .error (.ended .endInObject)
  | '\x7d' :: s => pure s
  | ',' :: s => skimMembers item n s
  | s => .error (.met .noObjectEnd s)

/-- One member is passed over, and what follows it decides. -/
theorem skimMembers_member {w p t : List Char} {m : List Char × List Char} (hm : Member Eq p m)
    (hs : StringBody m.1) (hi : Skims item m.2) (hw : Space w) (ht : EndsNumber t) :
    skimMembers item (n + 1) (w ++ (p ++ t)) = skimBehind item n (skipSpace t) := by
  obtain @⟨body, u, v, value, _, rfl, hu, hv⟩ := hm
  have hstring := skimString_of_literal (stringBody_iff.mp hs) (u ++ ':' :: (v ++ (value ++ t)))
  have hcolon : skipSpace (u ++ ':' :: (v ++ (value ++ t))) = ':' :: (v ++ (value ++ t)) :=
    hu.skipSpace_append _
  have hk : skipSpace (w ++ ('"' :: (body ++ '"' :: (u ++ ':' :: (v ++ value))) ++ t)) =
      '"' :: (body ++ '"' :: (u ++ ':' :: (v ++ (value ++ t)))) := by
    rw [hw.skipSpace_append]
    simp [skipSpace, isSpace]
  simp only [skimMembers, hk, hstring, bind_ok, hcolon, hi v t hv ht]
  rfl

theorem skimMembers_complete {p w rest : List Char} {m : List Char × List Char}
    {members : List (List Char × List Char)} (ht : Tail (Member Eq) rest members)
    (hp : Member Eq p m) (hm : ∀ m' ∈ m :: members, StringBody m'.1 ∧ Skims item m'.2)
    (hw : Space w) (hn : members.length < n) (r : List Char) :
    skimMembers item n (w ++ (p ++ (rest ++ '\x7d' :: r))) = .ok r := by
  induction ht generalizing p m w n with
  | @done v hv =>
    obtain ⟨n, rfl⟩ := Nat.exists_eq_add_one_of_ne_zero (Nat.ne_of_gt hn)
    have hend : Delimited ('\x7d' :: r) := .inr (.inr rfl)
    have hk : skipSpace (v ++ '\x7d' :: r) = '\x7d' :: r := hv.skipSpace_append _
    obtain ⟨hs, hi⟩ := hm m List.mem_cons_self
    rw [skimMembers_member hp hs hi hw (hv.endsNumber_append hend.endsNumber), hk]
    rfl
  | @next v w' p' rest m' members hv hw' hp' htail ih =>
    obtain ⟨n, rfl⟩ := Nat.exists_eq_add_one_of_ne_zero (Nat.ne_of_gt (Nat.zero_lt_of_lt hn))
    have hend : Delimited (',' :: (w' ++ (p' ++ (rest ++ '\x7d' :: r)))) := .inl rfl
    have hk : skipSpace (v ++ ',' :: (w' ++ (p' ++ (rest ++ '\x7d' :: r)))) =
        ',' :: (w' ++ (p' ++ (rest ++ '\x7d' :: r))) := hv.skipSpace_append _
    have hrest := ih hp' (fun m' hm' => hm m' (List.mem_cons_of_mem _ hm')) hw'
      (Nat.lt_of_succ_lt_succ hn)
    obtain ⟨hs, hi⟩ := hm m List.mem_cons_self
    simp only [List.append_assoc, List.cons_append]
    rw [skimMembers_member hp hs hi hw (hv.endsNumber_append hend.endsNumber), hk]
    exact hrest

end

/-! Values. -/

theorem number_of_scan {t : NumberText} {sign : List Char} (hs : sign = [] ∨ sign = ['-'])
    (h : scanNumber early s = .ok (t, r)) : ∃ text, sign ++ s = text ++ r ∧ IsNumber text := by
  obtain ⟨fraction, power, rfl, hw, hf, hp, -⟩ := scanNumber_sound h
  exact ⟨_, by simp, .mk hs hw hf hp⟩

theorem skimValue_array (n : Nat) (s : List Char) :
    skimValue (n + 1) ('[' :: s) =
      match skipSpace s with
      | [] => .error (.ended .endInList)
      | ']' :: s => .ok s
      | s => skimItems (skimValue n) n s :=
  rfl

theorem skimValue_object (n : Nat) (s : List Char) :
    skimValue (n + 1) ('\x7b' :: s) =
      match skipSpace s with
      | [] => .error (.ended .endInObject)
      | '\x7d' :: s => .ok s
      | s => skimMembers (skimValue n) n s :=
  rfl

theorem array_of_skimValue {n : Nat} (hi : SkimsOnly (skimValue n) WellFormed)
    (h : skimValue (n + 1) ('[' :: s) = .ok r) :
    ∃ text, '[' :: s = text ++ r ∧ WellFormed text := by
  obtain ⟨v, hv, hs⟩ := exists_skipSpace s
  rw [skimValue_array] at h
  split at h
  · cases h
  · rename_i hk
    cases h
    rw [hk] at hs
    exact ⟨'[' :: (v ++ [']']), by simp [hs], .array (.empty hv) (by simp)⟩
  · obtain ⟨w, text, rest, items, he, hw, ht, hf⟩ := skimItems_sound hi h
    rw [he] at hs
    exact ⟨'[' :: ((v ++ w) ++ (text ++ (rest ++ [']']))), by simp [hs],
      .array (.pieces (hv.append hw) rfl ht) hf⟩

theorem object_of_skimValue {n : Nat} (hi : SkimsOnly (skimValue n) WellFormed)
    (h : skimValue (n + 1) ('\x7b' :: s) = .ok r) :
    ∃ text, '\x7b' :: s = text ++ r ∧ WellFormed text := by
  obtain ⟨v, hv, hs⟩ := exists_skipSpace s
  rw [skimValue_object] at h
  split at h
  · cases h
  · rename_i hk
    cases h
    rw [hk] at hs
    exact ⟨'\x7b' :: (v ++ ['\x7d']), by simp [hs], .object (.empty hv) (by simp) (by simp)⟩
  · obtain ⟨w, p, m, rest, members, he, hw, hp, ht, hf⟩ := skimMembers_sound hi h
    rw [he] at hs
    exact ⟨'\x7b' :: ((v ++ w) ++ (p ++ (rest ++ ['\x7d']))), by simp [hs],
      .object (.pieces (hv.append hw) hp ht) (fun m hm => (hf m hm).1) fun m hm => (hf m hm).2⟩

theorem skimValue_sound (n : Nat) : SkimsOnly (skimValue n) WellFormed := by
  induction n with
  | zero => exact fun s r h => nomatch h
  | succ n ih =>
    intro s r h
    obtain ⟨w, hw, hs⟩ := exists_skipSpace s
    rw [skimValue] at h
    split at h
    · cases h
    · rename_i c s₁ hk
      rw [hk] at hs
      rw [hs]
      suffices hform : ∃ text, c :: s₁ = text ++ r ∧ WellFormed text by
        obtain ⟨text, he, ht⟩ := hform
        exact ⟨w, text, by rw [he], hw, ht⟩
      rcases ite_eq_iff.mp h with ⟨rfl, h⟩ | ⟨-, h⟩
      · rw [scanWord_sound h]
        exact ⟨_, rfl, .null⟩
      rcases ite_eq_iff.mp h with ⟨rfl, h⟩ | ⟨-, h⟩
      · rw [scanWord_sound h]
        exact ⟨_, rfl, .bool true⟩
      rcases ite_eq_iff.mp h with ⟨rfl, h⟩ | ⟨-, h⟩
      · rw [scanWord_sound h]
        exact ⟨_, rfl, .bool false⟩
      rcases ite_eq_iff.mp h with ⟨rfl, h⟩ | ⟨-, h⟩
      · obtain ⟨body, rfl, hb⟩ := literal_of_skimString h
        exact ⟨'"' :: (body ++ ['"']), by simp, .string (stringBody_iff.mpr hb)⟩
      rcases ite_eq_iff.mp h with ⟨rfl, h⟩ | ⟨-, h⟩
      · obtain ⟨⟨t, _⟩, ht, rfl⟩ := exists_of_map_eq_ok h
        obtain ⟨text, he, hn⟩ := number_of_scan (.inr rfl) ht
        exact ⟨text, he, .number hn⟩
      rcases ite_eq_iff.mp h with ⟨-, h⟩ | ⟨-, h⟩
      · obtain ⟨⟨t, _⟩, ht, rfl⟩ := exists_of_map_eq_ok h
        obtain ⟨text, he, hn⟩ := number_of_scan (.inl rfl) ht
        exact ⟨text, he, .number hn⟩
      rcases ite_eq_iff.mp h with ⟨rfl, h⟩ | ⟨-, h⟩
      · exact array_of_skimValue ih h
      rcases ite_eq_iff.mp h with ⟨rfl, h⟩ | ⟨-, h⟩
      · exact object_of_skimValue ih h
      · cases h

variable {text : List Char}

theorem IsNumber.opens (h : IsNumber text) : ∃ c t, text = c :: t ∧ startsNumber c = true := by
  obtain @⟨sign, whole, fraction, power, hs, hw, -, -⟩ := h
  rcases hs with rfl | rfl
  · obtain ⟨d, ds, rfl⟩ := List.exists_cons_of_ne_nil hw.1.1
    have hd := hw.1.2 d List.mem_cons_self
    exact ⟨d, _, rfl, by simp [startsNumber, hd]⟩
  · exact ⟨'-', _, rfl, rfl⟩

theorem WellFormed.opens (h : WellFormed text) : ∃ c t, text = c :: t ∧ opensValue c = true := by
  cases h with
  | null => exact ⟨_, _, rfl, rfl⟩
  | bool b => cases b <;> exact ⟨_, _, rfl, rfl⟩
  | number h =>
    obtain ⟨c, t, rfl, hc⟩ := h.opens
    exact ⟨c, t, rfl, by simp [opensValue, hc]⟩
  | string => exact ⟨_, _, rfl, rfl⟩
  | array h =>
    obtain ⟨t, rfl⟩ := h.exists_cons
    exact ⟨_, _, rfl, rfl⟩
  | object h =>
    obtain ⟨t, rfl⟩ := h.exists_cons
    exact ⟨_, _, rfl, rfl⟩

theorem IsNumber.skimValue_eq (h : IsNumber text) (n : Nat) (hr : EndsNumber r) :
    skimValue (n + 1) (text ++ r) = .ok r := by
  obtain @⟨sign, whole, fraction, power, hs, hw, hf, hp⟩ := h
  obtain ⟨t, ht⟩ : ∃ t, scanNumber .badNumber (whole ++ (fraction ++ (power ++ r))) = .ok (t, r) :=
    scanNumber_complete hw hf hp hr
  simp only [List.append_assoc]
  rcases hs with rfl | rfl
  · obtain ⟨d, ds, rfl⟩ := List.exists_cons_of_ne_nil hw.1.1
    have hd := hw.1.2 d List.mem_cons_self
    have hk : isSpace d = false := isSpace_of_opensValue (by simp [opensValue, startsNumber, hd])
    have hletters : ∀ c ∈ ['n', 't', 'f', '"', '-'], c.isDigit = false := by simp
    have hne : ∀ c ∈ ['n', 't', 'f', '"', '-'], d ≠ c := by
      rintro c hc rfl
      rw [hletters d hc] at hd
      cases hd
    simp only [List.forall_mem_cons, List.not_mem_nil, false_imp_iff, implies_true, and_true] at hne
    simp only [List.nil_append, List.cons_append] at ht ⊢
    simp only [skimValue, skipSpace_cons hk, hne, if_false, hd, if_true, ht]
    rfl
  · simp only [List.cons_append, List.nil_append, skimValue, skipSpace_cons (by rfl : isSpace '-' = false)]
    simp [ht, Except.map]

theorem IsArray.skimValue_eq {items : List (List Char)} {n : Nat} (h : IsArray text items)
    (ho : ∀ i ∈ items, WellFormed i)
    (hi : ∀ i ∈ items, i.length < n → Skims (skimValue n) i) (hn : text.length < n + 1)
    (r : List Char) : skimValue (n + 1) (text ++ r) = .ok r := by
  cases h with
  | @empty w hw =>
    have hk : skipSpace (w ++ ']' :: r) = ']' :: r := hw.skipSpace_append _
    simp only [List.cons_append, List.append_assoc, List.nil_append, skimValue_array, hk]
  | @pieces w p rest item items hw hp ht =>
    subst hp
    simp only [List.length_cons, List.length_append, List.length_nil] at hn
    have hlen : items.length < n := by
      have hle := ht.length_le
      omega
    have hsize : ∀ i ∈ p :: items, i.length < n := by
      have hle : ∀ i ∈ items, i.length ≤ rest.length :=
        ht.size_le fun p a he => Nat.le_of_eq (congrArg _ he.symm)
      refine List.forall_mem_cons.mpr ⟨by omega, fun i hm => ?_⟩
      have hl := hle i hm
      omega
    have hitems := skimItems_complete ht (fun i hm => hi i hm (hsize i hm)) space_nil hlen r
    obtain ⟨c, t, rfl, hc⟩ := (ho p List.mem_cons_self).opens
    have hk : skipSpace (w ++ (c :: t ++ (rest ++ ']' :: r))) = c :: (t ++ (rest ++ ']' :: r)) := by
      rw [hw.skipSpace_append, List.cons_append, skipSpace_of_opensValue hc]
    simp only [List.cons_append, List.append_assoc, List.nil_append] at hk hitems ⊢
    rw [skimValue_array, hk]
    split
    · rename_i he
      cases he
    · rename_i he
      cases he
      cases hc
    · exact hitems

theorem Member.opens {β : Type} {Name : List Char → β → Prop} {m : β × List Char}
    (h : Member Name text m) : ∃ t, text = '"' :: t := by
  cases h
  exact ⟨_, rfl⟩

theorem Member.length_le {β : Type} {Name : List Char → β → Prop} {m : β × List Char}
    (h : Member Name text m) : m.2.length ≤ text.length := by
  cases h
  simp only [List.length_cons, List.length_append]
  omega

theorem IsObject.skimValue_eq {members : List (List Char × List Char)} {n : Nat}
    (h : IsObject Eq text members) (hm : ∀ m ∈ members, StringBody m.1)
    (hi : ∀ m ∈ members, m.2.length < n → Skims (skimValue n) m.2) (hn : text.length < n + 1)
    (r : List Char) : skimValue (n + 1) (text ++ r) = .ok r := by
  cases h with
  | @empty w hw =>
    have hk : skipSpace (w ++ '\x7d' :: r) = '\x7d' :: r := hw.skipSpace_append _
    simp only [List.cons_append, List.append_assoc, List.nil_append, skimValue_object, hk]
  | @pieces w p rest m members hw hp ht =>
    simp only [List.length_cons, List.length_append, List.length_nil] at hn
    have hlen : members.length < n := by
      have hle := ht.length_le
      omega
    have hsize : ∀ m' ∈ m :: members, m'.2.length < n := by
      have hle : ∀ m' ∈ members, m'.2.length ≤ rest.length :=
        ht.size_le fun p m' hm' => hm'.length_le
      have hl := hp.length_le
      refine List.forall_mem_cons.mpr ⟨by omega, fun m' hm' => ?_⟩
      have hl := hle m' hm'
      omega
    have hmembers := skimMembers_complete ht hp
      (fun m' hm' => ⟨hm m' hm', hi m' hm' (hsize m' hm')⟩) space_nil hlen r
    obtain ⟨t, rfl⟩ := hp.opens
    have hk : skipSpace (w ++ ('"' :: t ++ (rest ++ '\x7d' :: r))) =
        '"' :: (t ++ (rest ++ '\x7d' :: r)) := by
      rw [hw.skipSpace_append, List.cons_append, skipSpace_of_opensValue rfl]
    simp only [List.cons_append, List.append_assoc, List.nil_append] at hk hmembers ⊢
    rw [skimValue_object, hk]
    exact hmembers

theorem skimValue_append {w : List Char} (hw : Space w) (n : Nat) (s : List Char) :
    skimValue n (w ++ s) = skimValue n s := by
  cases n with
  | zero => rfl
  | succ n => simp only [skimValue, hw.skipSpace_append]

/-- A text of the grammar is passed over if the count is more than its length. -/
theorem skimValue_complete (h : WellFormed text) {n : Nat} (hn : text.length < n) :
    Skims (skimValue n) text := by
  intro w r hw hr
  rw [skimValue_append hw]
  induction h generalizing n w r with
  | null =>
    obtain ⟨n, rfl⟩ := Nat.exists_eq_add_one_of_ne_zero (Nat.ne_of_gt (Nat.zero_lt_of_lt hn))
    exact scanWord_append _ r
  | bool b =>
    obtain ⟨n, rfl⟩ := Nat.exists_eq_add_one_of_ne_zero (Nat.ne_of_gt (Nat.zero_lt_of_lt hn))
    cases b <;> exact scanWord_append _ r
  | number h =>
    obtain ⟨n, rfl⟩ := Nat.exists_eq_add_one_of_ne_zero (Nat.ne_of_gt (Nat.zero_lt_of_lt hn))
    exact h.skimValue_eq n hr
  | string h =>
    obtain ⟨n, rfl⟩ := Nat.exists_eq_add_one_of_ne_zero (Nat.ne_of_gt (Nat.zero_lt_of_lt hn))
    rw [List.cons_append, List.append_assoc]
    exact skimString_of_literal (stringBody_iff.mp h) r
  | @array text items h hi ih =>
    obtain ⟨n, rfl⟩ := Nat.exists_eq_add_one_of_ne_zero (Nat.ne_of_gt (Nat.zero_lt_of_lt hn))
    have hskim : ∀ i ∈ items, i.length < n → Skims (skimValue n) i := fun i hm hl w r hw hr => by
      rw [skimValue_append hw]
      exact ih i hm hl w r hw hr
    exact h.skimValue_eq hi hskim hn r
  | @object text members h hs hv ih =>
    obtain ⟨n, rfl⟩ := Nat.exists_eq_add_one_of_ne_zero (Nat.ne_of_gt (Nat.zero_lt_of_lt hn))
    have hskim : ∀ m ∈ members, m.2.length < n → Skims (skimValue n) m.2 :=
      fun m hm hl w r hw hr => by
        rw [skimValue_append hw]
        exact ih m hm hl w r hw hr
    exact h.skimValue_eq hs hskim hn r

theorem skim_sound : SkimsOnly skim WellFormed :=
  fun s => skimValue_sound (s.length + 1) s

theorem skim_complete (h : WellFormed text) : Skims skim text := by
  intro w r hw hr
  refine skimValue_complete h ?_ w r hw hr
  simp only [List.length_append]
  omega

end OneShot.Json
