import OneShot.Proofs.Codec.Text
import OneShot.Proofs.Decoder
import OneShot.Proofs.Invocation.Dispatch
import OneShot.Proofs.Json.Integers
import OneShot.Proofs.Json.Records

/-! Payloads of lists, dictionaries, pairs and records: what JSON texts stand for at each type, and that
decoding takes these texts and no others. -/

namespace OneShot

open Json

variable {α β : Type}

/-! Records of one field and of two. -/

def oneSlot (name : String) (read : Reader β) (Form : List Char → β → Prop) : Slot (Option β) :=
  ⟨name, true, β, id, fun _ b => some b, read, Form⟩

theorem slotted_oneField {title name : String} {read : Reader β} {Form : List Char → β → Prop}
    (h : Recognizes read Form) (make : β → α) :
    Slotted (oneField title name read make) [oneSlot name read Form] where
  fields := rfl
  names := List.nodup_singleton name
  recognizes := by simpa [oneSlot] using h
  blank := by simp [oneSlot, oneField]
  own := by simp [oneSlot]
  other := by simp [oneSlot]
  ext d e he := he _ List.mem_cons_self

theorem exists_of_oneField {title name : String} {read : Reader β} {make : β → α} {d : Option β}
    {a : α} (h : (oneField title name read make).finish d = .ok a) : ∃ b, d = some b := by
  cases d with
  | none => cases h
  | some b => exact ⟨b, rfl⟩

/-- The texts of a record of one field, for the values of the field. An object may have other members, of
any form. -/
inductive OneField (name : String) (Form : List Char → β → Prop) (text : List Char) (b : β) : Prop
  | object {members : List (String × List Char)} (h : IsObject IsName text members)
      (hb : Given Form name members (some b)) (hu : ∀ m ∈ members, m.1 ≠ name → WellFormed m.2)
  | array {item : List Char} (h : IsArray text [item]) (hb : Form item b)

theorem recordOf_oneField_iff {title name : String} {read : Reader β} {Form : List Char → β → Prop}
    {make : β → α} {text : List Char} {a : α} :
    RecordOf (oneField title name read make) [oneSlot name read Form] text a ↔
      ∃ b, OneField name Form text b ∧ a = make b := by
  constructor
  · rintro (@⟨_, d, _, h, hg, hu, ha⟩ | @⟨_, d, _, h, hg, ha⟩)
    · obtain ⟨b, rfl⟩ := exists_of_oneField ha
      cases ha
      exact ⟨b, .object h (hg _ List.mem_cons_self) (by simpa [oneSlot, eq_comm] using hu), rfl⟩
    · obtain ⟨b, rfl⟩ := exists_of_oneField ha
      cases ha
      cases hg with
      | absent hn => cases (hn _ List.mem_cons_self).1
      | item hv hd hg =>
        cases hd
        obtain - | hrest := hg
        exact ⟨b, .array h hv, rfl⟩
  · rintro ⟨b, ⟨h, hb, hu⟩ | ⟨h, hb⟩, rfl⟩
    · exact .object (d := some b) h (by simpa [oneSlot] using hb)
        (by simpa [oneSlot, eq_comm] using hu) rfl
    · exact .array (d := some b) h (.item hb rfl (.absent nofun)) rfl

theorem recognizes_oneField {title name : String} {read : Reader β} {Form : List Char → β → Prop}
    (h : Recognizes read Form) (make : β → α) :
    Recognizes (oneField title name read make).read fun text a =>
      ∃ b, OneField name Form text b ∧ a = make b :=
  (slotted_oneField h make).recognizes_read.congr fun _ _ => recordOf_oneField_iff

/-- A record of one field. An object may have other members, of any form. -/
inductive IsPoint (text : List Char) (p : Point) : Prop
  | object {members : List (String × List Char)} (h : IsObject IsName text members)
      (hx : Given (IsNum .i32) "x" members (some p.x))
      (hu : ∀ m ∈ members, m.1 ≠ "x" → WellFormed m.2)
  | array {x : List Char} (h : IsArray text [x]) (hx : IsNum .i32 x p.x)

theorem isPoint_iff {text : List Char} {p : Point} :
    IsPoint text p ↔ ∃ x, OneField "x" (IsNum .i32) text x ∧ p = ⟨x⟩ := by
  constructor
  · rintro (⟨h, hx, hu⟩ | ⟨h, hx⟩)
    · exact ⟨p.x, .object h hx hu, rfl⟩
    · exact ⟨p.x, .array h hx, rfl⟩
  · rintro ⟨x, ⟨h, hx, hu⟩ | ⟨h, hx⟩, rfl⟩
    · exact .object h hx hu
    · exact .array h hx

/-- A record of two fields, which an object may have in either order. -/
inductive IsLedger (text : List Char) (l : Ledger) : Prop
  | object {members : List (String × List Char)} (h : IsObject IsName text members)
      (hn : Given IsString "name" members (some l.name))
      (ht : Given (IsNum .u128) "total" members (some l.total))
      (hu : ∀ m ∈ members, m.1 ≠ "name" → m.1 ≠ "total" → WellFormed m.2)
  | array {name total : List Char} (h : IsArray text [name, total]) (hn : IsString name l.name)
      (ht : IsNum .u128 total l.total)

namespace Ledger

def nameSlot : Slot Draft :=
  ⟨"name", true, String, Draft.name, fun d a => { d with name := some a }, readString, IsString⟩

def totalSlot : Slot Draft :=
  ⟨"total", true, IntKind.u128.Num, Draft.total, fun d a => { d with total := some a },
    readInt .u128, IsNum .u128⟩

theorem slotted : Slotted record [nameSlot, totalSlot] where
  fields := rfl
  names := by simp [nameSlot, totalSlot]
  recognizes := by
    have hname : Recognizes nameSlot.read nameSlot.Form := recognizes_string _
    have htotal : Recognizes totalSlot.read totalSlot.Form := recognizes_int (k := .u128) (by decide)
    simp [hname, htotal]
  blank := by simp [nameSlot, totalSlot, record]
  own := by simp [nameSlot, totalSlot]
  other := by simp [nameSlot, totalSlot]
  ext := by
    rintro ⟨name, total⟩ ⟨name', total'⟩ he
    simpa [nameSlot, totalSlot] using he

theorem exists_of_finish {d : Draft} {l : Ledger} (h : record.finish d = .ok l) :
    d.name = some l.name ∧ d.total = some l.total := by
  obtain ⟨name, total⟩ := d
  cases name with
  | none => cases h
  | some name =>
    cases total with
    | none => cases h
    | some total =>
      cases h
      exact ⟨rfl, rfl⟩

end Ledger

theorem isLedger_iff {text : List Char} {l : Ledger} :
    IsLedger text l ↔ RecordOf Ledger.record [Ledger.nameSlot, Ledger.totalSlot] text l := by
  constructor
  · rintro (⟨h, hn, ht, hu⟩ | ⟨h, hn, ht⟩)
    · refine .object (d := ⟨some l.name, some l.total⟩) h ?_ ?_ rfl
      · exact List.forall_mem_cons.mpr ⟨hn, List.forall_mem_cons.mpr ⟨ht, nofun⟩⟩
      · simpa [Ledger.nameSlot, Ledger.totalSlot, eq_comm] using hu
    · exact .array (d := ⟨some l.name, some l.total⟩) h
        (.item hn rfl (.item ht rfl (.absent nofun))) rfl
  · rintro (@⟨_, d, _, h, hg, hu, ha⟩ | @⟨_, d, _, h, hg, ha⟩)
    · obtain ⟨hname, htotal⟩ := Ledger.exists_of_finish ha
      have hn : Given IsString "name" _ d.name := hg _ List.mem_cons_self
      have ht : Given (IsNum .u128) "total" _ d.total :=
        hg _ (List.mem_cons_of_mem _ List.mem_cons_self)
      rw [hname] at hn
      rw [htotal] at ht
      exact .object h hn ht (by simpa [Ledger.nameSlot, Ledger.totalSlot, eq_comm] using hu)
    · obtain ⟨hname, htotal⟩ := Ledger.exists_of_finish ha
      cases hg with
      | absent hno => cases (hno _ List.mem_cons_self).1
      | item hn hd hg =>
        cases hg with
        | absent hno => cases (hno _ List.mem_cons_self).1
        | item ht hd' hg =>
          obtain - | hrest := hg
          have hd : d.name = some _ := hd
          have hd' : d.total = some _ := hd'
          rw [hname] at hd
          rw [htotal] at hd'
          cases hd
          cases hd'
          exact .array h hn ht

/-! What texts stand for. -/

/-- The texts of the values of a type, for the types of lists, dictionaries, pairs and records. -/
def Denotes : (t : DataType) → List Char → t.Val → Prop
  | .ints => ListOf (IsNum .i64)
  | .strings => ListOf IsString
  | .map => DictionaryOf (IsNum .i64)
  | .option => Nullable (IsNum .i64)
  | .pair => PairOf (IsNum .i64) IsString
  | .unit => fun text _ => text = nullText
  | .point => IsPoint
  | .ledger => IsLedger
  | _ => fun _ _ => False

theorem IsNum.head?_ne {k : IntKind} {text : List Char} {n : k.Num} (h : IsNum k text n) :
    text.head? ≠ some 'n' := by
  obtain ⟨c, t, hc, hstart⟩ := opens_decimalInt n.val
  rw [isInteger_iff.mp h, hc]
  rintro ⟨⟩
  cases hstart

theorem recognizes_structured {t : DataType} (h : t ∈ Codec.wordless) :
    Recognizes t.read (Denotes t) := by
  have hint : Recognizes (readInt .i64) (IsNum .i64) := recognizes_int (by decide)
  have hstring : Recognizes readString IsString := recognizes_string _
  simp only [Codec.wordless, List.mem_cons, List.not_mem_nil, or_false] at h
  rcases h with rfl | rfl | rfl | rfl | rfl | rfl | rfl | rfl
  · exact hint.array
  · exact hstring.array
  · exact hint.dictionary
  · exact hint.option fun _ _ => IsNum.head?_ne
  · exact hint.pair hstring
  · exact recognizes_unit
  · have hnum : Recognizes (readInt .i32) (IsNum .i32) := recognizes_int (by decide)
    exact (recognizes_oneField hnum Point.mk).congr fun _ _ => isPoint_iff.symm
  · exact Ledger.slotted.recognizes_read.congr fun _ _ => isLedger_iff.symm

namespace Decoder

/-- Payloads of structured types are decoded just when they are JSON texts that stand for a value, and to
this value. Any other payload is unconvertible. -/
theorem decode_structured {t : DataType} (h : t ∈ Codec.wordless) (payload : String) :
    Container.standard.decoder = .ok standard ∧
    (∀ v, standard.decode t payload = .ok v ↔
      ∃ text, Padded text payload.toList ∧ Denotes t text v) ∧
    ((¬ ∃ text v, Padded text payload.toList ∧ Denotes t text v) →
      ∃ reason, standard.decode t payload =
        .error (.unconvertible payload t.name (some reason))) := by
  have hread := recognizes_structured h
  have hconverter : ConversionTable.standard.converter? t = none := by
    simp only [Codec.wordless, List.mem_cons, List.not_mem_nil, or_false] at h
    rcases h with rfl | rfl | rfl | rfl | rfl | rfl | rfl | rfl <;> rfl
  exact ⟨Container.decoder_of_beans rfl rfl, fun v => decode_eq_ok_iff hconverter hread,
    decode_of_not_recognized hread hconverter⟩

/-- A record with its members in the other order, the greatest number of its field, an escaped pair of
surrogates, and an unknown member with half of one; and a list with a fraction. -/
theorem decode_structured_ledger :
    let payload := "\x7b\"total\": 340282366920938463463374607431768211455,
      \"note\": [1e999, \"\\ud800\"], \"name\": \"\\ud83d\\ude00\"\x7d"
    let ledger : Ledger := ⟨"😀", ⟨340282366920938463463374607431768211455, by decide⟩⟩
    DataType.ledger ∈ Codec.wordless ∧ DataType.ints ∈ Codec.wordless ∧
      (∃ text, Padded text payload.toList ∧ Denotes .ledger text ledger) ∧
      ¬ ∃ text v, Padded text "[1, 2.0]".toList ∧ Denotes .ints text v := by
  intro payload ledger
  have hledger : DataType.ledger ∈ Codec.wordless := by decide
  have hints : DataType.ints ∈ Codec.wordless := by decide
  obtain ⟨-, hl, -⟩ := decode_structured hledger payload
  obtain ⟨-, hi, -⟩ := decode_structured hints "[1, 2.0]"
  have hread : (standard.decode .ledger payload).toOption = some ledger := by decide +kernel
  have hdecode : standard.decode .ledger payload = .ok ledger := by
    cases hd : standard.decode .ledger payload with
    | error fault =>
      rw [hd] at hread
      cases hread
    | ok l =>
      rw [hd] at hread
      exact congrArg Except.ok (Option.some.inj hread)
  refine ⟨hledger, hints, (hl ledger).mp hdecode, ?_⟩
  rintro ⟨text, v, hp, hv⟩
  have hd := (hi v).mpr ⟨text, hp, hv⟩
  cases hd

end Decoder

end OneShot
