import OneShot.Conversion

/-! Codecs turn payloads of a media type into JSON text and back. A registry holds one codec for
each essence; the last one registered is found. -/

namespace OneShot

structure Codec where
  media : MediaType
  toJson : String → Except Fault String
  fromJson : String → Except Fault ByteArray

namespace Codec

def json : Codec :=
  ⟨.json, .ok, fun text => .ok text.toUTF8⟩

/-- Payloads are texts. A JSON string is written as its characters, other JSON as it stands. -/
def text : Codec where
  media := .text
  toJson data := .ok (String.ofList (Json.quote data))
  fromJson text :=
    match text.toList with
    | '"' :: _ =>
      match DataType.string.ofJson text with
      | .ok s => .ok s.toUTF8
      | .error flaw => .error (.serialization flaw)
    | _ => .ok text.toUTF8

def reversed (s : String) : String :=
  String.ofList s.toList.reverse

def backwards (media : MediaType) : Codec :=
  ⟨media, fun data => .ok (reversed data), fun text => .ok (reversed text).toUTF8⟩

def broken (media : MediaType) : Codec :=
  ⟨media, fun data => .error (.config (.unreadable data)),
    fun text => .error (.config (.unwritable text))⟩

def decode (c : Codec) (t : DataType) (data : String) : Except Fault t.Val := do
  let text ← c.toJson data
  match t.ofJson text with
  | .ok v => return v
  | .error flaw => .error (.serialization flaw)

def encode (c : Codec) (t : DataType) (v : t.Val) : Except Fault ByteArray :=
  c.fromJson (t.toJson v)

end Codec

structure CodecRegistry where
  codecs : List Codec

namespace CodecRegistry

def empty : CodecRegistry := ⟨[]⟩

def register (r : CodecRegistry) (c : Codec) : CodecRegistry :=
  ⟨(r.codecs.filter fun d => !d.media.agrees c.media) ++ [c]⟩

def standard : CodecRegistry :=
  (empty.register .json).register .text

/-- The codec for a media type, whatever its parameters. -/
def find? (r : CodecRegistry) (media : MediaType) : Option Codec :=
  r.codecs.find? fun c => c.media.agrees media

def mediaTypes (r : CodecRegistry) : List MediaType :=
  r.codecs.map Codec.media

end CodecRegistry

end OneShot
