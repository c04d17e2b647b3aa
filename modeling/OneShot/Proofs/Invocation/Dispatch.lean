import OneShot.Invocation
import OneShot.Proofs.Registration

/-! Payloads are decoded and results are encoded by one and the same choice: the converter of the
type, else the codec of the media type, else nothing. The choice follows from what was registered
last. -/

namespace OneShot

/-- What payloads of a type are decoded by and its results are encoded by. -/
inductive Route (t : DataType)
  | converter (c : Converter t.Val)
  | codec (c : Codec)
  | missing (media : MediaType)

namespace Route

variable {t : DataType}

def of (converter? : Option (Converter t.Val)) (codec? : Option Codec) (media : MediaType) :
    Route t :=
  match converter?, codec? with
  | some c, _ => .converter c
  | none, some c => .codec c
  | none, none => .missing media

def decode (route : Route t) (data : String) : Except Fault t.Val :=
  match route with
  | .converter c =>
    match c.parse data with
    | some v => .ok v
    | none => .error (.unconvertible data t.name (some (.invalid t.name)))
  | .codec c =>
    match c.decode t data with
    | .ok v => .ok v
    | .error fault => .error (.unconvertible data t.name (some (.refused fault.message)))
  | .missing media => .error (.unconvertible data t.name (some (.noCodec media)))

def encode (route : Route t) (v : t.Val) : Except Fault ByteArray :=
  match route with
  | .converter c => .ok (c.render v).toUTF8
  | .codec c => c.encode t v
  | .missing media => .error (.codecNotFound media)

/-- Whether the converter or the codec gives a value back from its text. -/
def Keeps (route : Route t) (v : t.Val) : Prop :=
  match route with
  | .converter c => c.parse (c.render v) = some v
  | .codec c => ∃ text, c.encode t v = .ok text.toUTF8 ∧ c.decode t text = .ok v
  | .missing _ => False

theorem exists_of_keeps {route : Route t} {v : t.Val} (h : route.Keeps v) :
    ∃ text, route.encode v = .ok text.toUTF8 ∧ route.decode text = .ok v := by
  cases route with
  | converter c => exact ⟨c.render v, rfl, by simp only [decode, show c.parse _ = some v from h]⟩
  | codec c =>
    obtain ⟨text, he, hd⟩ := h
    exact ⟨text, he, by simp only [decode, hd]⟩
  | missing => exact h.elim

end Route

/-- The route of a type, if its structured payloads are of the given media type. -/
def Decoder.route (d : Decoder) (t : DataType) (media : MediaType) : Route t :=
  .of (d.conversions.converter? t) (d.codecs.find? media) media

namespace Decoder

variable (d : Decoder) (t : DataType) (media : MediaType)

theorem decodeWith_eq_route (data : String) :
    d.decodeWith t data media = (d.route t media).decode data := by
  cases hc : d.conversions.converter? t with
  | some c =>
    have hs : d.strategy t media = .conversion := if_pos (by rw [ConversionTable.canConvert, hc]; rfl)
    rw [decodeWith, hs, route, hc]
    change d.conversions.convert t data = _
    rw [ConversionTable.convert, hc]
    rfl
  | none =>
    have hs : d.strategy t media = .codec media :=
      if_neg (by rw [ConversionTable.canConvert, hc]; exact Bool.false_ne_true)
    rw [decodeWith, hs, route, hc]
    dsimp only
    cases d.codecs.find? media <;> rfl

theorem strategy_eq_conversion_iff :
    d.strategy t media = .conversion ↔ ∃ c, d.route t media = .converter c := by
  cases hc : d.conversions.converter? t <;> cases hk : d.codecs.find? media <;>
    simp [strategy, ConversionTable.canConvert, route, Route.of, hc, hk]

theorem isSome_render_iff (v : t.Val) :
    (d.conversions.render t v).isSome ↔ ∃ c, d.route t media = .converter c := by
  cases hc : d.conversions.converter? t <;> cases hk : d.codecs.find? media <;>
    simp [ConversionTable.render, route, Route.of, hc, hk]

end Decoder

/-- A type that a container decodes payloads of, and encodes results of under a name, by one
route. -/
structure Dispatch (c : Container) (name : String) (t : DataType) (d : Decoder) (media : MediaType)
    (route : Route t) : Prop where
  decoder : c.decoder = .ok d
  named : ∀ functions, c.find? .functions = some functions → functions.mediaTypeFor name = media
  strategy : d.strategy t media = .conversion ↔ ∃ cv, route = .converter cv
  rendered : ∀ v, (d.conversions.render t v).isSome ↔ ∃ cv, route = .converter cv
  decode : ∀ data, d.decodeWith t data media = route.decode data
  encode : ∀ v, c.encodeValue name t v = route.encode v
  returns : ∀ v, route.Keeps v → ∃ text, c.encodeValue name t v = .ok text.toUTF8 ∧
    d.decodeWith t text media = .ok v
  fault : ∀ data fault, d.decodeWith t data media = .error fault →
    ∃ reason, fault = .unconvertible data t.name (some reason)

/-- What a converter changes that is registered for a type: both directions for that type, and
nothing for any other. -/
structure Switched (c c' : Container) (d d' : Decoder) (t : DataType) (cv : Converter t.Val) :
    Prop where
  decoder : c'.decoder = .ok d'
  decode : ∀ data media, d'.decodeWith t data media = (Route.converter cv).decode data
  encode : ∀ name v, c'.encodeValue name t v = (Route.converter cv).encode v
  decode_other : ∀ u, u ≠ t → ∀ data media, d'.decodeWith u data media = d.decodeWith u data media
  encode_other : ∀ u, u ≠ t → ∀ name v, c'.encodeValue name u v = c.encodeValue name u v

namespace Container

variable {c : Container} {conversions : ConversionTable} {codecs : CodecRegistry}
  {functions : FunctionRegistry}

theorem decoder_of_beans (ht : c.find? .conversions = some conversions)
    (hk : c.find? .codecs = some codecs) : c.decoder = .ok ⟨conversions, codecs⟩ := by
  rw [decoder, BeanStore.get_of_some ht, BeanStore.get_of_some hk]
  rfl

theorem encodeValue_eq_route (ht : c.find? .conversions = some conversions)
    (hk : c.find? .codecs = some codecs) (hf : c.find? .functions = some functions) (name : String)
    (t : DataType) (v : t.Val) :
    c.encodeValue name t v =
      (Decoder.route ⟨conversions, codecs⟩ t (functions.mediaTypeFor name)).encode v := by
  simp only [encodeValue, BeanStore.get_of_some ht, BeanStore.get_of_some hk,
    BeanStore.get_of_some hf, ConversionTable.render, Decoder.route, bind, Except.bind]
  cases conversions.converter? t with
  | some cv => rfl
  | none => cases codecs.find? (functions.mediaTypeFor name) <;> rfl

theorem dispatch_of_beans (ht : c.find? .conversions = some conversions)
    (hk : c.find? .codecs = some codecs) (hf : c.find? .functions = some functions) (name : String)
    (t : DataType) :
    Dispatch c name t ⟨conversions, codecs⟩ (functions.mediaTypeFor name)
      (Decoder.route ⟨conversions, codecs⟩ t (functions.mediaTypeFor name)) where
  decoder := decoder_of_beans ht hk
  named functions' hf' := by
    rw [hf] at hf'
    cases hf'
    rfl
  strategy := Decoder.strategy_eq_conversion_iff _ t _
  rendered := Decoder.isSome_render_iff _ t _
  decode := Decoder.decodeWith_eq_route _ t _
  encode := encodeValue_eq_route ht hk hf name t
  returns v h := by
    obtain ⟨text, he, hd⟩ := Route.exists_of_keeps h
    exact ⟨text, (encodeValue_eq_route ht hk hf name t v).trans he,
      (Decoder.decodeWith_eq_route _ t _ text).trans hd⟩
  fault _ _ h := Decoder.decodeWith_eq_error h

theorem switched_of_register {c' : Container} (ht : c.find? .conversions = some conversions)
    (hk : c.find? .codecs = some codecs) (hf : c.find? .functions = some functions)
    {t : DataType} {cv : Converter t.Val}
    (ht' : c'.find? .conversions = some (conversions.register t cv))
    (hk' : c'.find? .codecs = some codecs) (hf' : c'.find? .functions = some functions) :
    Switched c c' ⟨conversions, codecs⟩ ⟨conversions.register t cv, codecs⟩ t cv := by
  have hself : ∀ media, Decoder.route ⟨conversions.register t cv, codecs⟩ t media =
      .converter cv := by
    intro media
    rw [Decoder.route, ConversionTable.converter?_register_self]
    rfl
  have hother : ∀ u, u ≠ t → ∀ media, Decoder.route ⟨conversions.register t cv, codecs⟩ u media =
      Decoder.route ⟨conversions, codecs⟩ u media := by
    intro u hu media
    rw [Decoder.route, ConversionTable.converter?_register_of_ne conversions cv hu.symm]
    rfl
  refine ⟨decoder_of_beans ht' hk', fun data media => ?_, fun name v => ?_,
    fun u hu data media => ?_, fun u hu name v => ?_⟩
  · rw [Decoder.decodeWith_eq_route, hself]
  · rw [encodeValue_eq_route ht' hk' hf', hself]
  · rw [Decoder.decodeWith_eq_route, hother u hu, Decoder.decodeWith_eq_route]
  · rw [encodeValue_eq_route ht' hk' hf', hother u hu, encodeValue_eq_route ht hk hf]

variable {entries : List ((t : DataType) × Converter t.Val)} {added : List Codec}
  {registrations : List Registration}

/-- Decoding and encoding take one route, whatever has been registered before. It is that of the
converter that was registered last for the type, else of the codec that was registered last for the
media type. -/
theorem dispatches_agree
    (ht : c.find? .conversions = some (conversions.registerAll entries))
    (hk : c.find? .codecs = some (codecs.registerAll added))
    (hf : c.find? .functions = some (functions.registerAll registrations)) (name : String)
    (t : DataType) :
    let d : Decoder := ⟨conversions.registerAll entries, codecs.registerAll added⟩
    let media := ((FunctionRegistry.last? name registrations).map Registration.media).getD
      (functions.mediaTypeFor name)
    let route := Route.of ((ConversionTable.last? t entries).or (conversions.converter? t))
      ((CodecRegistry.last? media added).or (codecs.find? media)) media
    Dispatch c name t d media route ∧
      ∀ (cv : Converter t.Val) (c' : Container),
        c'.find? .conversions = some ((conversions.registerAll entries).register t cv) →
        c'.find? .codecs = c.find? .codecs → c'.find? .functions = c.find? .functions →
        Switched c c' d ⟨(conversions.registerAll entries).register t cv, codecs.registerAll added⟩
          t cv := by
  intro d media route
  have hm : (functions.registerAll registrations).mediaTypeFor name = media :=
    functions.mediaTypeFor_registerAll registrations name
  have hroute : d.route t media = route := by
    rw [Decoder.route, ConversionTable.converter?_registerAll, CodecRegistry.find?_registerAll]
  have hd := dispatch_of_beans ht hk hf name t
  rw [hm] at hd
  exact ⟨hroute ▸ hd, fun cv c' ht' hk' hf' =>
    switched_of_register ht hk hf ht' (hk'.trans hk) (hf'.trans hf)⟩

/-- A converter of its own for words and another one after it, and a function with plain text for
its results. -/
theorem dispatches_agree_bool :
    let table := ConversionTable.standard.registerAll [⟨.bool, .bool "yes" "no"⟩]
    let functions := FunctionRegistry.empty.registerAll [⟨"answer", .text⟩]
    let c : Container := (Container.standard.register .conversions table).register .functions functions
    let c' : Container := c.register .conversions (table.register .bool (.bool "on" "off"))
    (c.find? .conversions = some table ∧ c.find? .codecs = some .standard ∧
      c.find? .functions = some functions) ∧
    (∃ text, c.encodeValue "answer" .bool true = .ok text.toUTF8 ∧
      Decoder.decodeWith ⟨table, .standard⟩ .bool text .text = .ok true) ∧
    c'.encodeValue "answer" .bool true = .ok "on".toUTF8 ∧
    ∀ n, c'.encodeValue "answer" (.int .i64) n = c.encodeValue "answer" (.int .i64) n := by
  intro table functions c c'
  have h := @dispatches_agree c .standard .standard .empty [⟨.bool, .bool "yes" "no"⟩] []
    [⟨"answer", .text⟩] rfl rfl rfl "answer" .bool
  have hs := h.2 (.bool "on" "off") c' rfl rfl rfl
  exact ⟨⟨rfl, rfl, rfl⟩, h.1.returns true rfl, hs.encode "answer" true,
    hs.encode_other (.int .i64) (by decide) "answer"⟩

end Container

end OneShot
