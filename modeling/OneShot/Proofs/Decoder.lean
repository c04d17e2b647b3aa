import OneShot.Decoder
import OneShot.Proofs.Codec.RoundTrip
import OneShot.Proofs.Json.Recognition

/-! Payloads of types without a converter are JSON texts. They are decoded as their texts are
recognized, and what is not recognized is unconvertible. -/

namespace OneShot.Decoder

open Json

variable {t : DataType} {Form : List Char → t.Val → Prop}

theorem decode_of_no_converter (h : ConversionTable.standard.converter? t = none) (payload : String) :
    standard.decode t payload =
      match t.ofJson payload with
      | .ok v => .ok v
      | .error flaw =>
        .error (.unconvertible payload t.name (some (.refused (Fault.serialization flaw).message))) := by
  have hs : standard.strategy t .json = .codec .json :=
    if_neg (by rw [ConversionTable.canConvert, standard, h]; exact Bool.false_ne_true)
  have hc : standard.codecs.find? .json = some .json := rfl
  simp only [decode, decodeWith, hs, hc]
  cases ho : t.ofJson payload with
  | ok v => simp only [Codec.json_decode_of_ok ho]
  | error flaw => simp only [Codec.json_decode_of_error ho]

/-- What a payload is decoded to, if its type is known by the form of its texts. -/
theorem decode_eq_ok_iff (h : ConversionTable.standard.converter? t = none)
    (hf : Recognizes t.read Form) {payload : String} {v : t.Val} :
    standard.decode t payload = .ok v ↔ ∃ text, Padded text payload.toList ∧ Form text v := by
  rw [decode_of_no_converter h, ← hf.whole_eq_ok_iff, ← DataType.ofJson]
  cases t.ofJson payload with
  | ok w => simp only [Except.ok.injEq]
  | error flaw => exact ⟨nofun, nofun⟩

theorem decode_of_not_recognized (hf : Recognizes t.read Form)
    (h : ConversionTable.standard.converter? t = none) {payload : String}
    (hn : ¬ ∃ text v, Padded text payload.toList ∧ Form text v) :
    ∃ reason, standard.decode t payload = .error (.unconvertible payload t.name (some reason)) := by
  cases hd : standard.decode t payload with
  | ok v =>
    obtain ⟨text, hp, hv⟩ := (decode_eq_ok_iff h hf).mp hd
    exact absurd ⟨text, v, hp, hv⟩ hn
  | error fault =>
    obtain ⟨reason, rfl⟩ := decodeWith_eq_error hd
    exact ⟨reason, rfl⟩

end OneShot.Decoder
