import OneShot.Proofs.Json.Literal
import OneShot.Proofs.Numeral
import OneShot.Json.Record

/-! Texts that a reader takes for a value, whatever may follow them in an array or an object.
Numbers, words and literals are such texts, and arrays, objects and records of such texts are. -/

namespace OneShot.Json

theorem bind_ok {ε α β : Type} (a : α) (f : α → Except ε β) : (Except.ok a >>= f) = f a :=
  rfl

theorem exists_of_bind_eq_ok {ε α β : Type} {x : Except ε α} {f : α → Except ε β} {b : β}
    (h : x >>= f = .ok b) : ∃ a, x = .ok a ∧ f a = .ok b := by
  cases x with
  | ok a => exact ⟨a, rfl, h⟩
  | error e => cases h

theorem exists_of_map_eq_ok {ε α β : Type} {x : Except ε α} {f : α → β} {b : β}
    (h : x.map f = .ok b) : ∃ a, x = .ok a ∧ f a = b := by
  cases x with
  | ok a => exact ⟨a, rfl, Except.ok.inj h⟩
  | error e => cases h

/-- What follows a value without white space before it: the end of the text, a comma, or the end of
an array or an object. -/
def Delimited : List Char → Prop
  | [] => True
  | c :: _ => c = ',' ∨ c = ']' ∨ c = '\x7d'

/-- What does not go on with a number that stands before it. -/
def EndsNumber (r : List Char) : Prop :=
  ∀ c ∈ r.head?, c.isDigit = false ∧ c ≠ '.' ∧ c ≠ 'e' ∧ c ≠ 'E'

theorem EndsNumber.isDigit_head {r : List Char} (h : EndsNumber r) :
    ∀ c ∈ r.head?, c.isDigit = false :=
  fun c hc => (h c hc).1

theorem Delimited.endsNumber {r : List Char} (h : Delimited r) : EndsNumber r := by
  intro c hc
  cases r with
  | nil => cases hc
  | cons d r =>
    cases hc
    rcases h with rfl | rfl | rfl <;> decide

/-- Whether a value can begin with a character. -/
def opensValue (c : Char) : Bool :=
  startsNumber c || ['"', '[', '\x7b', 'n', 't', 'f'].contains c

theorem isSpace_of_opensValue {c : Char} (h : opensValue c = true) : isSpace c = false := by
  cases hs : isSpace c with
  | false => rfl
  | true =>
    simp only [isSpace, Bool.or_eq_true, decide_eq_true_eq] at hs
    rcases hs with ((rfl | rfl) | rfl) | rfl <;> cases h

theorem skipSpace_of_opensValue {c : Char} (h : opensValue c = true) (s : List Char) :
    skipSpace (c :: s) = c :: s := by
  simp [skipSpace, isSpace_of_opensValue h]

/-- A text on one line that a reader takes for a value. -/
structure Written {α : Type} (read : Reader α) (text : List Char) (a : α) : Prop where
  opens : ∃ c s, text = c :: s ∧ opensValue c = true
  oneLine : '\n' ∉ text
  read_append : ∀ r, Delimited r → read (text ++ r) = .ok (a, r)

variable {α β σ : Type} {read : Reader α} {text : List Char} {a : α}

theorem Written.map (h : Written read text a) (f : α → β) :
    Written (fun s => (read s).map fun (a, r) => (f a, r)) text (f a) where
  opens := h.opens
  oneLine := h.oneLine
  read_append r hr := by rw [h.read_append r hr]; rfl

theorem whole_of_ok (h : read text = .ok (a, [])) : whole read (String.ofList text) = .ok a := by
  simp only [whole, String.toList_ofList, readAlone, h]
  rfl

theorem whole_of_error {stop : Stop}
    (h : read text = .error stop) :
    whole read (String.ofList text) = .error (stop.locate (String.ofList text)) := by
  simp only [whole, String.toList_ofList, readAlone, h]
  rfl

/-- A whole text is read to its value. -/
theorem Written.whole_eq (h : Written read text a) : whole read (String.ofList text) = .ok a := by
  have hr := h.read_append [] trivial
  rw [List.append_nil] at hr
  exact whole_of_ok hr

/-! Words and literals. -/

theorem written_bool (b : Bool) : Written readBool (boolText b) b where
  opens := by cases b <;> exact ⟨_, _, rfl, rfl⟩
  oneLine := by cases b <;> decide
  read_append r _ := by cases b <;> rfl

theorem written_unit : Written readUnit nullText () where
  opens := ⟨_, _, rfl, rfl⟩
  oneLine := by decide
  read_append _ _ := rfl

theorem opens_quote (s : String) : ∃ c t, quote s = c :: t ∧ opensValue c = true :=
  ⟨'"', _, rfl, rfl⟩

theorem readStringAs_quote (expected : String) (s : String) (r : List Char) :
    readStringAs expected (quote s ++ r) = .ok (s, r) := by
  have h : skipSpace (quote s ++ r) = '"' :: (s.toList.flatMap escape ++ '"' :: r) := by
    rw [quote_eq, List.cons_append, skipSpace_of_opensValue rfl, List.append_assoc]
    rfl
  simp only [readStringAs, h, scanString_quote]
  simp [Except.map]

theorem written_quote (s : String) : Written readString (quote s) s where
  opens := opens_quote s
  oneLine := newline_not_mem_quote s
  read_append r _ := readStringAs_quote _ s r

theorem written_char (c : Char) : Written readChar (quote (String.singleton c)) c where
  opens := opens_quote _
  oneLine := newline_not_mem_quote _
  read_append r _ := by
    simp only [readChar, readStringAs_quote, bind_ok, String.toList_singleton]
    rfl

/-! Numbers. -/

theorem scanWhole_decimal (early : Fault) (n : Nat) {r : List Char} (hr : EndsNumber r) :
    scanWhole early (decimal n ++ r) = .ok (decimal n, r) := by
  obtain ⟨d, ds, hd, hdigit, hz⟩ := exists_decimal_eq_cons n
  by_cases h : d = '0'
  · subst h
    have h0 : decimal n = ['0'] := by rw [hz rfl]; rfl
    cases r with
    | nil => simp [h0, scanWhole]
    | cons c r =>
      have hc := hr.isDigit_head c rfl
      simp [h0, scanWhole, hc]
  · have hs : spanDigits (decimal n ++ r) = (decimal n, r) :=
      spanDigits_append_of_isDigit (fun c => isDigit_of_mem_decimal) hr.isDigit_head
    rw [hd, List.cons_append] at hs ⊢
    simp [scanWhole, h, hdigit, hs]

theorem scanNumber_decimal (early : Fault) (n : Nat) {r : List Char} (hr : EndsNumber r) :
    scanNumber early (decimal n ++ r) = .ok (⟨decimal n, none, none⟩, r) := by
  have hf : scanFraction early r = .ok (none, r) := by
    cases r with
    | nil => rfl
    | cons c r => simp [scanFraction, (hr c rfl).2.1]
  have hx : scanExponent early r = .ok (none, r) := by
    cases r with
    | nil => rfl
    | cons c r => simp [scanExponent, (hr c rfl).2.2]
  simp only [scanNumber, scanWhole_decimal early n hr, bind_ok, hf, hx]
  rfl

theorem opens_decimalInt (n : Int) : ∃ c s, decimalInt n = c :: s ∧ startsNumber c = true := by
  by_cases h : n < 0
  · exact ⟨'-', _, decimalInt_of_neg h, rfl⟩
  · obtain ⟨d, ds, hd, hdigit, -⟩ := exists_decimal_eq_cons n.natAbs
    exact ⟨d, ds, (decimalInt_of_nonneg (by omega)).trans hd, by simp [startsNumber, hdigit]⟩

theorem newline_not_mem_decimalInt (n : Int) : '\n' ∉ decimalInt n := by
  have hd := newline_not_mem_decimal n.natAbs
  by_cases h : n < 0
  · simp [decimalInt_of_neg h, hd]
  · rw [decimalInt_of_nonneg (by omega)]
    exact hd

theorem toNumber?_decimal {n : Int} (lo : -(1 <<< 63 : Nat) ≤ n) (hi : n < (1 <<< 64 : Nat)) :
    NumberText.toNumber? ⟨decimal n.natAbs, none, none⟩ (n < 0) = some (.int n lo hi) := by
  have ho : Number.ofInt? n = some (.int n lo hi) := by rw [Number.ofInt?, dif_pos ⟨lo, hi⟩]
  by_cases h : n < 0
  · have hv : -(n.natAbs : Int) = n := by
      rw [Int.ofNat_natAbs_of_nonpos (Int.le_of_lt h), Int.neg_neg]
    have h0 : n.natAbs ≠ 0 := Int.natAbs_ne_zero.mpr (Int.ne_of_lt h)
    simp only [NumberText.toNumber?, digitsValue_decimal, h, decide_true, h0, decide_false,
      Bool.and_false, if_true, hv, ho, Bool.false_eq_true, if_false]
  · have hv : (n.natAbs : Int) = n := Int.natAbs_of_nonneg (Int.not_lt.mp h)
    simp only [NumberText.toNumber?, digitsValue_decimal, h, decide_false, Bool.false_and,
      Bool.false_eq_true, if_false, hv, ho]

theorem readNumber_minus {s r : List Char} {t : NumberText} {v : Number}
    (hs : scanNumber .endInValue s = .ok (t, r)) (h : t.toNumber? true = some v) :
    readNumber ('-' :: s) = .ok (v, r) := by
  unfold readNumber
  simp only [hs, bind_ok, h]
  rfl

theorem readNumber_of_isDigit {d : Char} (hd : d.isDigit = true) {s r : List Char} {t : NumberText}
    {v : Number} (hs : scanNumber .endInValue (d :: s) = .ok (t, r))
    (h : t.toNumber? false = some v) : readNumber (d :: s) = .ok (v, r) := by
  have hm : d ≠ '-' := by
    rintro rfl
    exact absurd hd (by decide)
  unfold readNumber
  split
  rename_i hp
  split at hp
  · rename_i he
    exact absurd (List.cons.inj he).1 hm
  · cases hp
    simp only [hs, bind_ok, h]
    rfl

/-- An integer of at most 64 bits is read as itself. -/
theorem readNumber_decimalInt {n : Int} (lo : -(1 <<< 63 : Nat) ≤ n) (hi : n < (1 <<< 64 : Nat))
    {r : List Char} (hr : EndsNumber r) :
    readNumber (decimalInt n ++ r) = .ok (.int n lo hi, r) := by
  have hs := scanNumber_decimal .endInValue n.natAbs hr
  have ht := toNumber?_decimal lo hi
  generalize Number.int n lo hi = v at ht ⊢
  by_cases hn : n < 0
  · rw [decimalInt_of_neg hn]
    rw [decide_eq_true hn] at ht
    exact readNumber_minus hs ht
  · obtain ⟨d, ds, hd, hdigit, -⟩ := exists_decimal_eq_cons n.natAbs
    rw [decimalInt_of_nonneg (Int.not_lt.mp hn)]
    rw [decide_eq_false hn] at ht
    rw [hd, List.cons_append] at hs ⊢
    rw [hd] at ht
    exact readNumber_of_isDigit hdigit hs ht

theorem skipSpace_decimalInt (n : Int) (r : List Char) :
    skipSpace (decimalInt n ++ r) = decimalInt n ++ r := by
  obtain ⟨c, s, hc, hs⟩ := opens_decimalInt n
  rw [hc, List.cons_append, skipSpace_of_opensValue (by simp [opensValue, hs])]

theorem bounds_of_bits {k : IntKind} (h : k.bits ≠ 128) (n : k.Num) :
    -(1 <<< 63 : Nat) ≤ n.val ∧ n.val < (1 <<< 64 : Nat) := by
  have hk : -(1 <<< 63 : Nat) ≤ k.lo ∧ k.hi < (1 <<< 64 : Nat) := by
    revert h
    cases k <;> decide
  exact ⟨Int.le_trans hk.1 n.property.1, Int.lt_of_le_of_lt n.property.2 hk.2⟩

theorem readNarrow_decimalInt {k : IntKind} (h : k.bits ≠ 128) (n : k.Num) {r : List Char}
    (hr : EndsNumber r) : readNarrow k (decimalInt n.val ++ r) = .ok (n, r) := by
  obtain ⟨lo, hi⟩ := bounds_of_bits h n
  have hn := readNumber_decimalInt lo hi hr
  obtain ⟨c, s, hc, hs⟩ := opens_decimalInt n.val
  have hk := skipSpace_decimalInt n.val r
  rw [hc, List.cons_append] at hn hk ⊢
  simp only [readNarrow, hk, hs, if_true, hn, bind_ok, IntKind.ofInt?_val]
  rfl

theorem readWide_decimalInt {k : IntKind} (n : k.Num) {r : List Char} (hr : EndsNumber r) :
    readWide k (decimalInt n.val ++ r) = .ok (n, r) := by
  have hw := scanWhole_decimal .badNumber n.val.natAbs hr
  have hk := skipSpace_decimalInt n.val r
  by_cases h : n.val < 0
  · have hv : -(n.val.natAbs : Int) = n.val := by
      rw [Int.ofNat_natAbs_of_nonpos (Int.le_of_lt h), Int.neg_neg]
    rw [decimalInt_of_neg h, List.cons_append] at hk ⊢
    simp only [readWide, hk, if_true, IntKind.signed_of_neg n h, hw, bind_ok, digitsValue_decimal,
      hv, IntKind.ofInt?_val]
    rfl
  · have hv : (n.val.natAbs : Int) = n.val := Int.natAbs_of_nonneg (Int.not_lt.mp h)
    obtain ⟨d, ds, hd, hdigit, -⟩ := exists_decimal_eq_cons n.val.natAbs
    have hm : d ≠ '-' := by
      rintro rfl
      exact absurd hdigit (by decide)
    rw [decimalInt_of_nonneg (Int.not_lt.mp h)] at hk ⊢
    have hx := digitsValue_decimal n.val.natAbs
    rw [hd] at hk hw hx ⊢
    rw [List.cons_append] at hk hw ⊢
    simp only [readWide, hk, hm, if_false, hw, bind_ok, hx, hv, IntKind.ofInt?_val,
      Bool.false_eq_true]
    rfl

theorem readInt_decimalInt {k : IntKind} (n : k.Num) {r : List Char} (hr : EndsNumber r) :
    readInt k (decimalInt n.val ++ r) = .ok (n, r) := by
  rw [readInt]
  split
  · exact readWide_decimalInt n hr
  · rename_i h
    exact readNarrow_decimalInt h n hr

theorem written_int {k : IntKind} (n : k.Num) : Written (readInt k) (decimalInt n.val) n where
  opens := by
    obtain ⟨c, s, hc, hs⟩ := opens_decimalInt n.val
    exact ⟨c, s, hc, by simp [opensValue, hs]⟩
  oneLine := newline_not_mem_decimalInt n.val
  read_append _ hr := readInt_decimalInt n hr.endsNumber

theorem written_none : Written (readOption read) nullText none where
  opens := ⟨_, _, rfl, rfl⟩
  oneLine := by decide
  read_append _ _ := rfl

/-- A present value is written as itself, so it must not begin as `null` does. -/
theorem Written.some (h : Written read text a) (hn : text.head? ≠ some 'n') :
    Written (readOption read) text (some a) where
  opens := h.opens
  oneLine := h.oneLine
  read_append r hr := by
    have hread := h.read_append r hr
    obtain ⟨c, s, rfl, hc⟩ := h.opens
    have hk := skipSpace_of_opensValue hc (s ++ r)
    rw [List.cons_append] at hread ⊢
    simp only [readOption, hk]
    split
    · rename_i he
      rw [(List.cons.inj he).1] at hn
      exact absurd rfl hn
    · rw [hread]
      rfl

/-! Arrays. -/

theorem commas_cons (p : List Char) (ps : List (List Char)) :
    commas (p :: ps) = p ++ ps.flatMap fun q => ',' :: q := by
  induction ps generalizing p with
  | nil => simp [commas]
  | cons q ps ih => simp [commas, ih]

theorem comma_commas (p : List Char) (ps : List (List Char)) :
    ',' :: commas (p :: ps) = (p :: ps).flatMap fun q => ',' :: q := by
  rw [commas_cons, List.flatMap_cons, List.cons_append]

theorem length_le_length_commas (ps : List (List Char)) : ps.length ≤ (commas ps).length + 1 := by
  cases ps with
  | nil => simp
  | cons p ps =>
    have h : ps.length ≤ (ps.flatMap fun q => ',' :: q).length := by
      induction ps with
      | nil => simp
      | cons q ps ih =>
        simp only [List.flatMap_cons, List.length_append, List.length_cons]
        omega
    simp only [commas_cons, List.length_append, List.length_cons]
    omega

theorem length_le_length_commas_of_mem {p : List Char} {ps : List (List Char)} (h : p ∈ ps) :
    p.length ≤ (commas ps).length := by
  cases ps with
  | nil => cases h
  | cons q qs =>
    rw [commas_cons, List.length_append]
    rcases List.mem_cons.mp h with rfl | h
    · exact Nat.le_add_right _ _
    · have hl : (',' :: p).length ≤ (qs.flatMap fun q => ',' :: q).length :=
        (List.sublist_flatten_of_mem (List.mem_map_of_mem h)).length_le
      rw [List.length_cons] at hl
      omega

theorem newline_not_mem_commas {ps : List (List Char)} (h : ∀ p ∈ ps, '\n' ∉ p) :
    '\n' ∉ commas ps := by
  cases ps with
  | nil => simp [commas]
  | cons p ps =>
    simp only [commas_cons, List.mem_append, List.mem_flatMap, List.mem_cons, not_or, not_exists,
      not_and]
    exact ⟨h p List.mem_cons_self, fun q hq => ⟨by decide, h q (List.mem_cons_of_mem _ hq)⟩⟩

/-- What follows the first of several pieces, up to the end of the array or the object. -/
theorem delimited_rest (ps : List (List Char)) {last : Char} (h : last = ']' ∨ last = '\x7d')
    (r : List Char) : Delimited ((ps.flatMap fun q => ',' :: q) ++ last :: r) := by
  cases ps with
  | nil => exact .inr h
  | cons q ps => exact .inl rfl

theorem nextItem_first {c : Char} (hc : opensValue c = true) (s : List Char) :
    nextItem true (c :: s) = .ok (.more (c :: s)) := by
  have hn : c ≠ ']' := by
    rintro rfl
    cases hc
  simp only [nextItem, skipSpace_of_opensValue hc, if_true]

theorem nextItem_comma {c : Char} (hc : opensValue c = true) (s : List Char) :
    nextItem false (',' :: c :: s) = .ok (.more (c :: s)) := by
  have hn : c ≠ ']' := by
    rintro rfl
    cases hc
  have hk : skipSpace (',' :: c :: s) = ',' :: c :: s := rfl
  simp [nextItem, hk, skipSpace_of_opensValue hc, hn]

/-- The items of an array after the first one. -/
theorem readItems_rest {write : α → List Char} {as : List α} {n : Nat} (hn : as.length < n)
    (h : ∀ a ∈ as, Written read (write a) a) (r : List Char) :
    readItems read n false (((as.map write).flatMap fun q => ',' :: q) ++ ']' :: r) =
      .ok (as, r) := by
  induction as generalizing n with
  | nil =>
    obtain ⟨n, rfl⟩ := Nat.exists_eq_add_one_of_ne_zero (Nat.ne_of_gt hn)
    rfl
  | cons a as ih =>
    obtain ⟨n, rfl⟩ := Nat.exists_eq_add_one_of_ne_zero (Nat.ne_of_gt (Nat.zero_lt_of_lt hn))
    have hi := ih (n := n) (Nat.lt_of_succ_lt_succ hn) fun b hb => h b (List.mem_cons_of_mem _ hb)
    have ha := h a List.mem_cons_self
    have hread := ha.read_append _ (delimited_rest (as.map write) (.inl rfl) r)
    obtain ⟨c, s, hs, hc⟩ := ha.opens
    simp only [List.map_cons, List.flatMap_cons, List.cons_append, List.append_assoc]
    rw [hs] at hread ⊢
    rw [List.cons_append] at hread ⊢
    simp only [readItems, nextItem_comma hc, bind_ok, hread, hi]
    rfl

/-- The first item is read as one behind a comma would be. -/
theorem readItems_first {c : Char} (hc : opensValue c = true) (n : Nat) (s : List Char) :
    readItems read n true (c :: s) = readItems read n false (',' :: c :: s) := by
  cases n with
  | zero => rfl
  | succ n => simp only [readItems, nextItem_first hc, nextItem_comma hc]

theorem readItems_written {write : α → List Char} {as : List α} {n : Nat} (hn : as.length < n)
    (h : ∀ a ∈ as, Written read (write a) a) (r : List Char) :
    readItems read n true (commas (as.map write) ++ ']' :: r) = .ok (as, r) := by
  have hr := readItems_rest hn h r
  cases as with
  | nil =>
    obtain ⟨n, rfl⟩ := Nat.exists_eq_add_one_of_ne_zero (Nat.ne_of_gt hn)
    rfl
  | cons a as =>
    obtain ⟨c, s, hs, hc⟩ := (h a List.mem_cons_self).opens
    rw [List.map_cons, ← comma_commas, commas_cons, hs, List.cons_append, List.cons_append] at hr
    rw [List.map_cons, commas_cons, hs, List.cons_append, List.cons_append, readItems_first hc]
    exact hr

theorem Written.array {write : α → List Char} {as : List α}
    (h : ∀ a ∈ as, Written read (write a) a) :
    Written (readArray read) (arrayText (as.map write)) as where
  opens := ⟨'[', _, rfl, rfl⟩
  oneLine := by
    have hc : '\n' ∉ commas (as.map write) := newline_not_mem_commas fun p hp => by
      obtain ⟨a, ha, rfl⟩ := List.mem_map.mp hp
      exact (h a ha).oneLine
    simp [arrayText, hc]
  read_append r _ := by
    have hk : skipSpace (arrayText (as.map write) ++ r) =
        '[' :: (commas (as.map write) ++ ']' :: r) := by
      rw [arrayText, List.cons_append, List.cons_append, List.append_assoc]
      rfl
    have hl := length_le_length_commas (as.map write)
    rw [List.length_map] at hl
    simp only [readArray, hk]
    refine readItems_written ?_ h r
    simp only [List.length_append, List.length_cons]
    omega

theorem Written.pair {right : Reader β} {text' : List Char} {b : β} (ha : Written read text a)
    (hb : Written right text' b) :
    Written (readPair read right) (arrayText [text, text']) (a, b) where
  opens := ⟨'[', _, rfl, rfl⟩
  oneLine := by simp [arrayText, commas, ha.oneLine, hb.oneLine]
  read_append r _ := by
    have hk : skipSpace (arrayText [text, text'] ++ r) =
        '[' :: (text ++ ',' :: (text' ++ ']' :: r)) := by
      simp only [arrayText, commas, List.cons_append, List.append_assoc]
      rfl
    have hl := ha.read_append (',' :: (text' ++ ']' :: r)) (.inl rfl)
    have hr := hb.read_append (']' :: r) (.inr (.inl rfl))
    obtain ⟨c, s, rfl, hc⟩ := ha.opens
    obtain ⟨c', s', rfl, hc'⟩ := hb.opens
    simp only [List.cons_append] at hk hl hr
    simp only [readPair, hk, nextItem_first hc, bind_ok, hl, nextItem_comma hc', hr]
    rfl

end OneShot.Json
