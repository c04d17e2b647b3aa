import OneShot.Json.Scan

/-! String literals of JSON as a grammar beside the scanner. What the writer quotes spells the text,
and a literal is scanned to what it spells. One that spells nothing has a surrogate without its
partner. -/

namespace OneShot.Json

/-- The characters that the text between the quotes of a literal stands for. -/
inductive Spells : List Char → List Char → Prop
  | nil : Spells [] []
  | plain {c : Char} {s cs : List Char} (hq : c ≠ '"') (hb : c ≠ '\\') (hc : 0x20 ≤ c.toNat)
      (h : Spells s cs) : Spells (c :: s) (c :: cs)
  | letter {l c : Char} {s cs : List Char} (hl : escaped? l = some c) (h : Spells s cs) :
      Spells ('\\' :: l :: s) (c :: cs)
  | unit {a b c d : Char} {n : Nat} {s cs : List Char} (hn : hexQuad? a b c d = some n)
      (hl : isLowSurrogate n = false) (hh : isHighSurrogate n = false) (h : Spells s cs) :
      Spells ('\\' :: 'u' :: a :: b :: c :: d :: s) (Char.ofNat n :: cs)
  | pair {a b c d a' b' c' d' : Char} {n m : Nat} {s cs : List Char}
      (hn : hexQuad? a b c d = some n) (hh : isHighSurrogate n = true)
      (hm : hexQuad? a' b' c' d' = some m) (hl : isLowSurrogate m = true) (h : Spells s cs) :
      Spells ('\\' :: 'u' :: a :: b :: c :: d :: '\\' :: 'u' :: a' :: b' :: c' :: d' :: s)
        (pairValue n m :: cs)

theorem isLowSurrogate_of_high {n : Nat} (h : isHighSurrogate n = true) :
    isLowSurrogate n = false := by
  simp only [isHighSurrogate, Bool.and_eq_true, decide_eq_true_eq] at h
  simp only [isLowSurrogate, Bool.and_eq_false_iff, decide_eq_false_iff_not]
  omega

theorem escaped?_u : escaped? 'u' = none := by
  decide

theorem ne_u_of_escaped? {l c : Char} (h : escaped? l = some c) : l ≠ 'u' := by
  rintro rfl
  rw [escaped?_u] at h
  cases h

theorem scanString_of_spells {s cs : List Char} (h : Spells s cs) (r : List Char) :
    scanString (s ++ '"' :: r) = .ok (cs, r) := by
  induction h with
  | nil => rfl
  | plain hq hb hc _ ih => simp [scanString, Nat.not_lt.mpr hc, ih, Except.map]
  | letter hl _ ih => simp [scanString, ne_u_of_escaped? hl, hl, ih, Except.map]
  | unit hn hl hh _ ih => simp [scanString, hn, hl, hh, ih, Except.map]
  | pair hn hh hm hl _ ih =>
    simp [scanString, hn, isLowSurrogate_of_high hh, hh, hm, hl, ih, Except.map]

/-- A literal spells one text. -/
theorem Spells.unique {s cs ds : List Char} (h : Spells s cs) (h' : Spells s ds) : cs = ds := by
  have he := (scanString_of_spells h []).symm.trans (scanString_of_spells h' [])
  cases he
  rfl

theorem hexQuad?_control : ∀ n < 0x20,
    hexQuad? '0' '0' (hexDigit (n / 16)) (hexDigit (n % 16)) = some n ∧
      isLowSurrogate n = false ∧ isHighSurrogate n = false := by
  decide

/-- A character is escaped by a letter, by its number, or not at all. -/
theorem escape_cases (c : Char) :
    (∃ l, escape c = ['\\', l] ∧ escaped? l = some c) ∨
    (c.toNat < 0x20 ∧
      escape c = ['\\', 'u', '0', '0', hexDigit (c.toNat / 16), hexDigit (c.toNat % 16)]) ∨
    (escape c = [c] ∧ c ≠ '"' ∧ c ≠ '\\' ∧ 0x20 ≤ c.toNat) := by
  by_cases hl : c ∈ ['"', '\\', '\x08', '\x0c', '\n', '\r', '\t']
  · simp only [List.mem_cons, List.not_mem_nil, or_false] at hl
    rcases hl with rfl | rfl | rfl | rfl | rfl | rfl | rfl <;> exact .inl ⟨_, rfl, rfl⟩
  · simp only [List.mem_cons, List.not_mem_nil, or_false, not_or] at hl
    obtain ⟨hq, hb, h₁, h₂, h₃, h₄, h₅⟩ := hl
    right
    by_cases hc : c.toNat < 0x20
    · left
      exact ⟨hc, by simp only [escape, hq, hb, h₁, h₂, h₃, h₄, h₅, hc, if_true, if_false]⟩
    · right
      exact ⟨by simp only [escape, hq, hb, h₁, h₂, h₃, h₄, h₅, hc, if_false], hq, hb,
        Nat.not_lt.mp hc⟩

theorem spells_escape (c : Char) {s cs : List Char} (h : Spells s cs) :
    Spells (escape c ++ s) (c :: cs) := by
  rcases escape_cases c with ⟨l, he, hl⟩ | ⟨hc, he⟩ | ⟨he, hq, hb, hc⟩
  · rw [he]
    exact .letter hl h
  · obtain ⟨hx, hl, hh⟩ := hexQuad?_control c.toNat hc
    have hu := Spells.unit hx hl hh h
    rw [Char.ofNat_toNat] at hu
    rw [he]
    exact hu
  · rw [he]
    exact .plain hq hb hc h

/-- What is quoted spells the text. -/
theorem spells_flatMap_escape (s : List Char) : Spells (s.flatMap escape) s := by
  induction s with
  | nil => exact .nil
  | cons c s ih => exact spells_escape c ih

theorem quote_eq (s : String) : quote s = '"' :: (s.toList.flatMap escape ++ ['"']) :=
  rfl

theorem scanString_quote (s : String) (r : List Char) :
    scanString (s.toList.flatMap escape ++ '"' :: r) = .ok (s.toList, r) :=
  scanString_of_spells (spells_flatMap_escape s.toList) r

/-- A literal is written on one line. -/
theorem newline_not_mem_quote (s : String) : '\n' ∉ quote s := by
  have hx : ∀ n < 0x20, '\n' ≠ hexDigit (n / 16) ∧ '\n' ≠ hexDigit (n % 16) := by decide
  have he : ∀ c, '\n' ∉ escape c := by
    intro c
    rcases escape_cases c with ⟨l, he, hl⟩ | ⟨hc, he⟩ | ⟨he, -, -, hc⟩
    · rw [he]
      intro hm
      have hn : l = '\n' := by simpa [eq_comm] using hm
      subst hn
      exact absurd hl (by simp [escaped?])
    · simp [he, hx c.toNat hc]
    · rw [he]
      rintro hm
      rw [← List.mem_singleton.mp hm] at hc
      exact absurd hc (by decide)
  simp [quote, he]

/-- The text between the quotes of a literal as a grammar of its own: every escape has its digits,
whether or not it stands for a character. -/
inductive Literal : List Char → Prop
  | nil : Literal []
  | plain {c : Char} {s : List Char} (hq : c ≠ '"') (hb : c ≠ '\\') (hc : 0x20 ≤ c.toNat)
      (h : Literal s) : Literal (c :: s)
  | letter {l c : Char} {s : List Char} (hl : escaped? l = some c) (h : Literal s) :
      Literal ('\\' :: l :: s)
  | unit {a b c d : Char} {n : Nat} {s : List Char} (hn : hexQuad? a b c d = some n)
      (h : Literal s) : Literal ('\\' :: 'u' :: a :: b :: c :: d :: s)

theorem literal_of_skimString {s r : List Char} (h : skimString s = .ok r) :
    ∃ body, s = body ++ '"' :: r ∧ Literal body := by
  fun_induction skimString s with
  | case1 => cases h
  | case2 s =>
    cases h
    exact ⟨[], rfl, .nil⟩
  | case3 => cases h
  | case4 a b c d s n hn ih =>
    obtain ⟨body, rfl, hl⟩ := ih h
    exact ⟨_, rfl, .unit hn hl⟩
  | case5 => cases h
  | case6 c s _ _ he ih =>
    obtain ⟨body, rfl, hl⟩ := ih h
    obtain ⟨e, he⟩ := Option.isSome_iff_exists.mp he
    exact ⟨_, rfl, .letter he hl⟩
  | case7 => cases h
  | case8 => cases h
  | case9 => cases h
  | case10 c s hq hb hc ih =>
    obtain ⟨body, rfl, hl⟩ := ih h
    exact ⟨_, rfl, .plain hq hb (Nat.not_lt.mp hc) hl⟩

/-- The code units that a literal gives by number; `none` stands for every other character. -/
def units : List Char → List (Option Nat)
  | '\\' :: 'u' :: a :: b :: c :: d :: s => hexQuad? a b c d :: units s
  | '\\' :: _ :: s => none :: units s
  | _ :: s => none :: units s
  | [] => []

/-- Whether every surrogate is one half of a pair, if `waiting` says that the first half of one has
just been read. -/
def pairedFrom (waiting : Bool) : List (Option Nat) → Bool
  | [] => !waiting
  | none :: us => !waiting && pairedFrom false us
  | some n :: us =>
    if isLowSurrogate n then waiting && pairedFrom false us
    else !waiting && pairedFrom (isHighSurrogate n) us

def paired (body : List Char) : Bool :=
  pairedFrom false (units body)

theorem units_plain {c : Char} (hb : c ≠ '\\') (s : List Char) :
    units (c :: s) = none :: units s := by
  simp [units, hb]

theorem units_letter {l c : Char} (hl : escaped? l = some c) (s : List Char) :
    units ('\\' :: l :: s) = none :: units s := by
  simp [units, ne_u_of_escaped? hl]

/-- What the scanner makes of the literal before `r`: a literal whose surrogates are paired spells a
text, and any other is refused for a surrogate. -/
def Judged (s r : List Char) : Prop :=
  (paired s = true ∧ ∃ cs, Spells s cs) ∨
  (paired s = false ∧ ∃ stop, scanString (s ++ '"' :: r) = .error stop ∧
    (stop.fault = .lonePair ∨ stop.fault = .halfPair))

/-- A piece that stands for one character leaves the judgement to what follows it. -/
theorem Judged.cons {s r : List Char} (h : Judged s r) (head : List Char) (c : Char)
    (hu : paired (head ++ s) = paired s)
    (hs : ∀ cs, Spells s cs → Spells (head ++ s) (c :: cs))
    (he : ∀ t, scanString (head ++ t) = (scanString t).map fun (cs, r) => (c :: cs, r)) :
    Judged (head ++ s) r := by
  rcases h with ⟨hp, cs, hcs⟩ | ⟨hp, stop, hstop, hf⟩
  · exact .inl ⟨hu.trans hp, _, hs cs hcs⟩
  · refine .inr ⟨hu.trans hp, stop, ?_, hf⟩
    rw [List.append_assoc, he, hstop]
    rfl

theorem Judged.of_lonePair {s r : List Char} (t : List Char) (hp : paired s = false)
    (he : scanString (s ++ '"' :: r) = .error (.before .lonePair t)) : Judged s r :=
  .inr ⟨hp, _, he, .inl rfl⟩

theorem Judged.of_halfPair {s r : List Char} (t : List Char) (hp : paired s = false)
    (he : scanString (s ++ '"' :: r) = .error (.met .halfPair t)) : Judged s r :=
  .inr ⟨hp, _, he, .inr rfl⟩

theorem Literal.judged {s : List Char} (h : Literal s) (r : List Char) : Judged s r := by
  -- A pair takes two escapes at once, so the induction is on the length.
  induction hl : s.length using Nat.strongRecOn generalizing s with
  | ind len ih =>
    subst hl
    cases h with
    | nil => exact .inl ⟨rfl, _, .nil⟩
    | @plain c s hq hb hc h =>
      refine (ih _ (Nat.lt_succ_self _) h rfl).cons [c] c ?_ ?_ ?_
      · simp [paired, units_plain hb, pairedFrom]
      · exact fun _ hs => .plain hq hb hc hs
      · exact fun t => by simp [scanString, Nat.not_lt.mpr hc]
    | @letter l c s hl h =>
      refine (ih _ (by simp only [List.length_cons]; omega) h rfl).cons ['\\', l] c ?_ ?_ ?_
      · simp [paired, units_letter hl, pairedFrom]
      · exact fun _ hs => .letter hl hs
      · exact fun t => by simp [scanString, ne_u_of_escaped? hl, hl]
    | @unit a b c d n s hn h =>
      cases hl : isLowSurrogate n with
      | true =>
        exact .of_lonePair (s ++ '"' :: r) (by simp [paired, units, hn, pairedFrom, hl])
          (by simp [scanString, hn, hl])
      | false =>
        cases hh : isHighSurrogate n with
        | false =>
          refine (ih _ (by simp only [List.length_cons]; omega) h rfl).cons ['\\', 'u', a, b, c, d]
            (Char.ofNat n) ?_ ?_ ?_
          · simp [paired, units, hn, pairedFrom, hl, hh]
          · exact fun _ hs => .unit hn hl hh hs
          · exact fun t => by simp [scanString, hn, hl, hh]
        | true =>
          -- The first half of a pair: only the second half may follow.
          cases h with
          | nil =>
            exact .of_halfPair ('"' :: r) (by simp [paired, units, hn, pairedFrom, hl, hh])
              (by simp [scanString, hn, hl, hh, pairStop])
          | @plain e s hq hb hc h =>
            exact .of_halfPair (e :: s ++ '"' :: r)
              (by simp [paired, units, hn, units_plain hb, pairedFrom, hl, hh])
              (by simp [scanString, hn, hl, hh, pairStop, hb])
          | @letter e _ s he h =>
            exact .of_halfPair (e :: s ++ '"' :: r)
              (by simp [paired, units, hn, pairedFrom, hl, hh, ne_u_of_escaped? he])
              (by simp [scanString, hn, hl, hh, pairStop, ne_u_of_escaped? he])
          | @unit a' b' c' d' m s hm h =>
            cases hlm : isLowSurrogate m with
            | false =>
              exact .of_lonePair (s ++ '"' :: r)
                (by simp [paired, units, hn, pairedFrom, hl, hh, hm, hlm])
                (by simp [scanString, hn, hl, hh, hm, hlm])
            | true =>
              refine (ih _ (by simp only [List.length_cons]; omega) h rfl).cons
                ['\\', 'u', a, b, c, d, '\\', 'u', a', b', c', d'] (pairValue n m) ?_ ?_ ?_
              · simp [paired, units, hn, pairedFrom, hl, hh, hm, hlm]
              · exact fun _ hs => .pair hn hh hm hlm hs
              · exact fun t => by simp [scanString, hn, hl, hh, hm, hlm]

theorem Spells.literal {s cs : List Char} (h : Spells s cs) : Literal s := by
  induction h with
  | nil => exact .nil
  | plain hq hb hc _ ih => exact .plain hq hb hc ih
  | letter hl _ ih => exact .letter hl ih
  | unit hn _ _ _ ih => exact .unit hn ih
  | pair hn _ hm _ _ ih => exact .unit hn (.unit hm ih)

theorem Spells.paired {s cs : List Char} (h : Spells s cs) : paired s = true := by
  rcases h.literal.judged [] with ⟨hp, -⟩ | ⟨-, stop, hs, -⟩
  · exact hp
  · rw [scanString_of_spells h] at hs
    cases hs

theorem skimString_of_literal {s : List Char} (h : Literal s) (r : List Char) :
    skimString (s ++ '"' :: r) = .ok r := by
  induction h with
  | nil => rfl
  | plain hq hb hc _ ih => simp [skimString, Nat.not_lt.mpr hc, ih]
  | letter hl _ ih => simp [skimString, ne_u_of_escaped? hl, hl, ih]
  | unit hn _ ih => simp [skimString, hn, ih]

end OneShot.Json
