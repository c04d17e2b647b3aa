import OneShot.Codec

/-! Decoding of payloads. The type asked for decides between its converter and a codec, and whatever
goes wrong is reported as a payload that is no value of the type. -/

namespace OneShot

inductive Strategy
  | conversion
  | codec (media : MediaType)
  deriving DecidableEq

/-- Turns payloads into values: by a converter if the type has one, else by a codec. -/
structure Decoder where
  conversions : ConversionTable
  codecs : CodecRegistry

namespace Decoder

def standard : Decoder := ⟨.standard, .standard⟩

def strategy (d : Decoder) (t : DataType) (structured : MediaType) : Strategy :=
  if d.conversions.canConvert t then .conversion else .codec structured

/-- Decodes a payload whose structured form is of the given media type. Whatever goes wrong is
reported as an unconvertible payload. -/
def decodeWith (d : Decoder) (t : DataType) (data : String) (structured : MediaType) :
    Except Fault t.Val :=
  match d.strategy t structured with
  | .conversion => d.conversions.convert t data
  | .codec media =>
    match d.codecs.find? media with
    | none => .error (.unconvertible data t.name (some (.noCodec media)))
    | some c =>
      match c.decode t data with
      | .ok v => .ok v
      | .error fault => .error (.unconvertible data t.name (some (.refused fault.message)))

def decode (d : Decoder) (t : DataType) (data : String) : Except Fault t.Val :=
  d.decodeWith t data .json

theorem decodeWith_eq_error {d : Decoder} {t : DataType} {data : String} {media : MediaType}
    {fault : Fault} (h : d.decodeWith t data media = .error fault) :
    ∃ reason, fault = .unconvertible data t.name (some reason) := by
  rw [decodeWith] at h
  split at h
  · rw [ConversionTable.convert] at h
    split at h
    · exact ⟨_, (Except.error.inj h).symm⟩
    · split at h
      · cases h
      · exact ⟨_, (Except.error.inj h).symm⟩
  · split at h
    · exact ⟨_, (Except.error.inj h).symm⟩
    · split at h
      · cases h
      · exact ⟨_, (Except.error.inj h).symm⟩

end Decoder

end OneShot
