import OneShot.DataType
import OneShot.Proofs.Json.Members
import OneShot.Proofs.Json.Reading

/-! The types whose values come back from their JSON text, record by record. Reals do not, for their
text is rounded, and a JSON value does only as far as the reader reads on in it. -/

namespace OneShot

open Json

theorem written_oneField {β α : Type} {title name : String} {read : Reader β} {value : List Char}
    {b : β} (h : Written read value b) (make : β → α) :
    Written (oneField title name read make).read (objectText [memberText name value])
      (make b) := by
  have hf : (oneField title name read make).fields.find? (fun f => f.name == name) =
      some (.make name true id (fun _ b => some b) read) := by
    simp [oneField, Field.make]
  exact Record.written (.field hf rfl h .nil) rfl

theorem Ledger.written (l : Ledger) : Written Ledger.record.read l.write l :=
  Record.written (.field rfl rfl (written_quote l.name)
    (.field rfl rfl (written_int l.total) .nil)) rfl

theorem Tag.written (t : Tag) : Written Tag.readJson (quote t.text) t :=
  (written_quote t.text).map Tag.mk

namespace ExitCodes

theorem exists_num (code : UInt8) :
    ∃ n : IntKind.u8.Num, codeText code = decimalInt n.val ∧ UInt8.ofNat n.val.toNat = code := by
  have hb : IntKind.u8.lo ≤ code.toNat ∧ (code.toNat : Int) ≤ IntKind.u8.hi := by
    have hc := code.toNat_lt
    constructor
    · exact Int.natCast_nonneg _
    · change (code.toNat : Int) ≤ 255
      omega
  refine ⟨⟨code.toNat, hb⟩, ?_, ?_⟩
  · rw [decimalInt_of_nonneg (Int.natCast_nonneg _), Int.natAbs_natCast, codeText]
  · rw [Int.toNat_natCast, UInt8.ofNat_toNat]

theorem written_code (code : UInt8) : Written readCode (codeText code) code := by
  obtain ⟨n, ht, hn⟩ := exists_num code
  have h := (written_int n).map fun n => UInt8.ofNat n.val.toNat
  rwa [hn, ← ht] at h

theorem written (codes : ExitCodes) : Written record.read codes.write codes :=
  Record.written (.field rfl rfl (written_code codes.success)
    (.field rfl rfl (written_code codes.error)
      (.field rfl rfl (written_code codes.noData) .nil))) rfl

end ExitCodes

namespace Config

theorem written_filter (filter : Option String) :
    Written (readOption readString) (filterText filter) filter := by
  cases filter with
  | none => exact written_none
  | some filter => exact (written_quote filter).some (by simp [quote_eq])

theorem written (c : Config) : Written record.read c.write c :=
  Record.written (.field rfl rfl (written_quote c.functionName)
    (.field rfl rfl c.exitCodes.written
      (.field rfl rfl (written_filter c.logFilter) .nil))) rfl

end Config

namespace DataType

/-- The types that hold texts, words and integers, alone or in lists and records. -/
def exact : DataType → Bool
  | string | bool | char | int _ | point | ledger | tag | ints | strings | map | option | pair | unit
  | exitCodes | config | shifted | greetRequest | greeting => true
  | f32 | f64 | floats | json | raw | mediaType | registration | address | named _ => false

theorem written_of_exact {t : DataType} (h : t.exact = true) (v : t.Val) :
    Written t.read (t.write v) v := by
  cases t with
  | string => exact written_quote v
  | bool => exact written_bool v
  | char => exact written_char v
  | int k => exact written_int v
  | point => exact written_oneField (written_int v.x) Point.mk
  | ledger => exact Ledger.written v
  | tag => exact Tag.written v
  | ints => exact .array fun n _ => written_int n
  | strings => exact .array fun s _ => written_quote s
  | map =>
    exact @Written.dictionary _ (readInt .i64) (fun n => decimalInt n.val) v
      fun e _ => written_int e.2
  | option =>
    cases v with
    | none => exact written_none
    | some n =>
      refine (written_int n).some ?_
      obtain ⟨c, s, hc, hs⟩ := opens_decimalInt n.val
      rw [hc]
      rintro ⟨⟩
      cases hs
  | pair => exact .pair (written_int v.1) (written_quote v.2)
  | unit => exact written_unit
  | exitCodes => exact ExitCodes.written v
  | config => exact Config.written v
  | shifted => exact written_oneField (written_int v.y) Shifted.mk
  | greetRequest => exact written_oneField (written_quote v.name) GreetRequest.mk
  | greeting => exact written_oneField (written_quote v.message) Greeting.mk
  | f32 | f64 | floats | json | raw | mediaType | registration | address | named => cases h

end DataType

end OneShot
