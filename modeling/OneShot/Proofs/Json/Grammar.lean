import OneShot.Proofs.Json.Literal
import Mathlib.Data.List.TakeWhile
import Mathlib.Tactic.Tauto

/-! JSON texts as a grammar. Nothing in it is bounded: values may be nested to any depth, numbers may
have any number of digits, and a surrogate in a string may be without its partner. -/

namespace OneShot.Json

/-- White space, which may stand around every token. -/
def Space (w : List Char) : Prop :=
  ∀ c ∈ w, c ∈ [' ', '\t', '\r', '\n']

/-- A text with white space around it. -/
def Padded (text s : List Char) : Prop :=
  ∃ l r, Space l ∧ Space r ∧ s = l ++ (text ++ r)

/-! Numbers. -/

def Digits (ds : List Char) : Prop :=
  ds ≠ [] ∧ ∀ c ∈ ds, c.isDigit = true

/-- The digits before the point. A zero in front of them stands alone. -/
def Whole (ds : List Char) : Prop :=
  Digits ds ∧ (ds.head? = some '0' → ds = ['0'])

inductive Fraction : List Char → Prop
  | absent : Fraction []
  | point {ds : List Char} (h : Digits ds) : Fraction ('.' :: ds)

inductive Power : List Char → Prop
  | absent : Power []
  | exponent {e : Char} {sign ds : List Char} (he : e = 'e' ∨ e = 'E')
      (hs : sign = [] ∨ sign = ['+'] ∨ sign = ['-']) (h : Digits ds) : Power (e :: (sign ++ ds))

inductive IsNumber : List Char → Prop
  | mk {sign whole fraction power : List Char} (hs : sign = [] ∨ sign = ['-']) (hw : Whole whole)
      (hf : Fraction fraction) (hp : Power power) :
      IsNumber (sign ++ (whole ++ (fraction ++ power)))

/-! Strings. -/

def HexDigit (c : Char) : Prop :=
  ('0' ≤ c ∧ c ≤ '9') ∨ ('a' ≤ c ∧ c ≤ 'f') ∨ ('A' ≤ c ∧ c ≤ 'F')

/-- The characters that stand behind a backslash for one character. -/
def escapeLetters : List Char :=
  ['"', '\\', '/', 'b', 'f', 'n', 'r', 't']

/-- The text between the quotes of a string. -/
inductive StringBody : List Char → Prop
  | nil : StringBody []
  | plain {c : Char} {s : List Char} (hq : c ≠ '"') (hb : c ≠ '\\') (hc : 0x20 ≤ c.toNat)
      (h : StringBody s) : StringBody (c :: s)
  | letter {l : Char} {s : List Char} (hl : l ∈ escapeLetters) (h : StringBody s) :
      StringBody ('\\' :: l :: s)
  | unit {a b c d : Char} {s : List Char} (hd : ∀ x ∈ [a, b, c, d], HexDigit x)
      (h : StringBody s) : StringBody ('\\' :: 'u' :: a :: b :: c :: d :: s)

/-! Arrays and objects. -/

section

variable {α β : Type}

/-- What follows a piece of an array or of an object, up to the closing bracket: more pieces, each behind
a comma. -/
inductive Tail (Piece : List Char → α → Prop) : List Char → List α → Prop
  | done {w : List Char} (hw : Space w) : Tail Piece w []
  | next {w v p rest : List Char} {a : α} {as : List α} (hw : Space w) (hv : Space v)
      (hp : Piece p a) (h : Tail Piece rest as) :
      Tail Piece (w ++ ',' :: (v ++ (p ++ rest))) (a :: as)

/-- Pieces between brackets. -/
inductive Enclosed (first last : Char) (Piece : List Char → α → Prop) : List Char → List α → Prop
  | empty {w : List Char} (hw : Space w) : Enclosed first last Piece (first :: (w ++ [last])) []
  | pieces {w p rest : List Char} {a : α} {as : List α} (hw : Space w) (hp : Piece p a)
      (h : Tail Piece rest as) :
      Enclosed first last Piece (first :: (w ++ (p ++ (rest ++ [last])))) (a :: as)

/-- A member of an object. `Name` says what the text between the quotes of its name is taken for. -/
inductive Member (Name : List Char → β → Prop) : List Char → β × List Char → Prop
  | mk {body w v value : List Char} {name : β} (hn : Name body name) (hw : Space w)
      (hv : Space v) :
      Member Name ('"' :: (body ++ '"' :: (w ++ ':' :: (v ++ value)))) (name, value)

/-- The text of an array and the texts of its items. -/
def IsArray (text : List Char) (items : List (List Char)) : Prop :=
  Enclosed '[' ']' Eq text items

/-- The text of an object, the names of its members and the texts of their values. -/
def IsObject (Name : List Char → β → Prop) (text : List Char) (members : List (β × List Char)) :
    Prop :=
  Enclosed '\x7b' '\x7d' (Member Name) text members

end

/-- The texts of values, without white space around them. -/
inductive WellFormed : List Char → Prop
  | null : WellFormed nullText
  | bool (b : Bool) : WellFormed (boolText b)
  | number {text : List Char} (h : IsNumber text) : WellFormed text
  | string {body : List Char} (h : StringBody body) : WellFormed ('"' :: (body ++ ['"']))
  | array {text : List Char} {items : List (List Char)} (h : IsArray text items)
      (hi : ∀ item ∈ items, WellFormed item) : WellFormed text
  | object {text : List Char} {members : List (List Char × List Char)} (h : IsObject Eq text members)
      (hn : ∀ m ∈ members, StringBody m.1) (hv : ∀ m ∈ members, WellFormed m.2) : WellFormed text

theorem Enclosed.exists_cons {α : Type} {first last : Char} {Piece : List Char → α → Prop}
    {text : List Char} {as : List α} (h : Enclosed first last Piece text as) :
    ∃ t, text = first :: t := by
  cases h with
  | empty => exact ⟨_, rfl⟩
  | pieces => exact ⟨_, rfl⟩

/-! White space is what the reader skips. -/

theorem isSpace_iff {c : Char} : isSpace c = true ↔ c ∈ [' ', '\t', '\r', '\n'] := by
  simp only [isSpace, Bool.or_eq_true, decide_eq_true_eq, List.mem_cons, List.not_mem_nil, or_false]
  tauto

theorem space_nil : Space [] := fun _ h => absurd h List.not_mem_nil

theorem padded_self (text : List Char) : Padded text text :=
  ⟨[], [], space_nil, space_nil, (List.append_nil text).symm⟩

theorem Space.append {v w : List Char} (hv : Space v) (hw : Space w) : Space (v ++ w) :=
  fun c hc => (List.mem_append.mp hc).elim (hv c) (hw c)

theorem Space.skipSpace_append {w : List Char} (hw : Space w) (s : List Char) :
    skipSpace (w ++ s) = skipSpace s :=
  List.dropWhile_append_of_pos fun c hc => isSpace_iff.mpr (hw c hc)

theorem Space.skipSpace_eq {w : List Char} (hw : Space w) : skipSpace w = [] := by
  have h := hw.skipSpace_append []
  rwa [List.append_nil] at h

theorem skipSpace_cons {c : Char} (hc : isSpace c = false) (s : List Char) :
    skipSpace (c :: s) = c :: s := by
  simp [skipSpace, hc]

/-- What is skipped is white space. -/
theorem exists_skipSpace (s : List Char) : ∃ w, Space w ∧ s = w ++ skipSpace s := by
  exact ⟨s.takeWhile isSpace, fun c hc => isSpace_iff.mp (List.mem_takeWhile_imp hc),
    List.takeWhile_append_dropWhile.symm⟩

theorem skipSpace_skipSpace (s : List Char) : skipSpace (skipSpace s) = skipSpace s := by
  rw [skipSpace, List.dropWhile_eq_self_iff]
  exact List.dropWhile_get_zero_not isSpace s

theorem space_of_skipSpace {s : List Char} (h : skipSpace s = []) : Space s := by
  obtain ⟨w, hw, he⟩ := exists_skipSpace s
  rw [h, List.append_nil] at he
  exact he ▸ hw

/-! The strings of the grammar are those that are scanned. -/

theorem isSome_escaped?_iff {c : Char} : (escaped? c).isSome = true ↔ c ∈ escapeLetters := by
  by_cases h : c ∈ escapeLetters
  · simp only [h, iff_true]
    simp only [escapeLetters, List.mem_cons, List.not_mem_nil, or_false] at h
    rcases h with rfl | rfl | rfl | rfl | rfl | rfl | rfl | rfl <;> rfl
  · simp only [h, iff_false]
    simp only [escapeLetters, List.mem_cons, List.not_mem_nil, or_false, not_or] at h
    simp [escaped?, h]

theorem isSome_hexValue?_iff {c : Char} : (hexValue? c).isSome = true ↔ HexDigit c := by
  rw [hexValue?, HexDigit]
  split
  · simp_all
  · split
    · simp_all
    · split <;> simp_all

theorem isSome_hexQuad?_iff {a b c d : Char} :
    (hexQuad? a b c d).isSome = true ↔ ∀ x ∈ [a, b, c, d], HexDigit x := by
  simp only [List.mem_cons, List.not_mem_nil, or_false, forall_eq_or_imp, forall_eq,
    ← isSome_hexValue?_iff, hexQuad?]
  cases hexValue? a <;> cases hexValue? b <;> cases hexValue? c <;> cases hexValue? d <;> simp

theorem stringBody_iff {s : List Char} : StringBody s ↔ Literal s := by
  constructor
  · intro h
    induction h with
    | nil => exact .nil
    | plain hq hb hc _ ih => exact .plain hq hb hc ih
    | letter hl _ ih =>
      obtain ⟨e, he⟩ := Option.isSome_iff_exists.mp (isSome_escaped?_iff.mpr hl)
      exact .letter he ih
    | unit hd _ ih =>
      obtain ⟨n, hn⟩ := Option.isSome_iff_exists.mp (isSome_hexQuad?_iff.mpr hd)
      exact .unit hn ih
  · intro h
    induction h with
    | nil => exact .nil
    | plain hq hb hc _ ih => exact .plain hq hb hc ih
    | letter hl _ ih =>
      exact .letter (isSome_escaped?_iff.mp (Option.isSome_of_eq_some hl)) ih
    | unit hn _ ih => exact .unit (isSome_hexQuad?_iff.mp (Option.isSome_of_eq_some hn)) ih

end OneShot.Json
