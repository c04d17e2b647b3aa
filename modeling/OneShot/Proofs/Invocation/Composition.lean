import OneShot.Proofs.Codec.RoundTrip
import OneShot.Proofs.Invocation.Dispatch
import OneShot.Proofs.Invocation.Output
import OneShot.Proofs.Invocation.Transport

/-! Stream functions one behind the other: the bytes that one writes are what the next one reads.
Integers, words, records, lists and JSON values arrive as they are, and texts lose the end of their
last line. -/

namespace OneShot

/-- A text and what is left of it without the end of its last line. -/
inductive LineEnd : String → String → Prop
  | crlf (s : String) : LineEnd (s ++ "\r\n") s
  | lf {s : String} (h : s.toList.getLast? ≠ some '\r') : LineEnd (s ++ "\n") s
  | none {s : String} (h : s.toList.getLast? ≠ some '\n') : LineEnd s s

theorem LineEnd.dropLineEnd_eq {s rest : String} (h : LineEnd s rest) : dropLineEnd s = rest := by
  cases h with
  | crlf => simp [dropLineEnd]
  | none h => exact dropLineEnd_of_unended h
  | lf h =>
    rw [List.getLast?_eq_head?_reverse] at h
    have hr : (rest ++ "\n").toList.reverse = '\n' :: rest.toList.reverse := by simp
    rw [dropLineEnd, hr]
    split
    · rename_i he
      rw [(List.cons.inj he).2] at h
      exact absurd rfl h
    · rename_i he
      rw [← (List.cons.inj he).2, List.reverse_reverse, String.ofList_toList]
    · rename_i hne
      exact absurd rfl (hne _)

theorem lineEnd_dropLineEnd (s : String) : LineEnd s (dropLineEnd s) := by
  have hs : ∀ {r : List Char}, s.toList.reverse = r → s = String.ofList r.reverse := by
    rintro r rfl
    rw [List.reverse_reverse, String.ofList_toList]
  rw [dropLineEnd]
  split
  · rename_i r hr
    have he : s = String.ofList r.reverse ++ "\r\n" := by
      rw [hs hr]
      simp [String.ofList_append]
    exact he ▸ .crlf (String.ofList r.reverse)
  · rename_i r hne hr
    have he : s = String.ofList r.reverse ++ "\n" := by
      rw [hs hr]
      simp [String.ofList_append]
    have hl : (String.ofList r.reverse).toList.getLast? ≠ some '\r' := by
      rw [String.toList_ofList, List.getLast?_reverse]
      intro hh
      obtain ⟨r', rfl⟩ := List.head?_eq_some_iff.mp hh
      exact hne r' rfl
    exact he ▸ .lf hl
  · rename_i _ hne
    refine .none fun hl => ?_
    rw [List.getLast?_eq_head?_reverse] at hl
    obtain ⟨r, hr⟩ := List.head?_eq_some_iff.mp hl
    exact hne r hr

/-- The values that arrive as they are: all but texts and characters of the exact types, and JSON
values that are read back. -/
inductive Carries : (t : DataType) → t.Val → Prop
  | exact {t : DataType} (h : t.exact = true) (hs : t ≠ .string) (hc : t ≠ .char) (v : t.Val) :
      Carries t v
  | json {v : Json.Value} (hs : v.Everywhere Json.Value.Sorted)
      (hr : v.Everywhere Json.Value.NotReal) (hp : v.Everywhere Json.Value.Plain)
      (hd : v.depth ≤ 127) : Carries .json v

/-- What the next function receives of a value, if it receives anything. -/
inductive Received : (t : DataType) → t.Val → Option t.Val → Prop
  | kept {t : DataType} {v : t.Val} (h : Carries t v) : Received t v (some v)
  | text {s rest : String} (h : LineEnd s rest) (hn : rest ≠ "") : Received .string s (some rest)
  | nothing {s : String} (h : LineEnd s "") : Received .string s none

theorem Received.exists_of_string {t : DataType} (h : t = .string) (v : t.Val) :
    ∃ received, Received t v received := by
  subst h
  by_cases hn : dropLineEnd v = ""
  · exact ⟨none, .nothing (hn ▸ lineEnd_dropLineEnd v)⟩
  · exact ⟨some (dropLineEnd v), .text (lineEnd_dropLineEnd v) hn⟩

namespace Decoder

theorem standard_route_of_agrees {media : MediaType} (h : media.agrees .json = true)
    (t : DataType) : standard.route t media = standard.route t .json := by
  have hf : standard.codecs.find? media = some .json := CodecRegistry.find?_of_agrees h .standard
  rw [route, route, hf]
  cases standard.conversions.converter? t <;> rfl

theorem standard_route_of_no_converter {t : DataType}
    (h : standard.conversions.converter? t = none) : standard.route t .json = .codec .json := by
  rw [route, h]
  rfl

end Decoder

namespace Carries

variable {t : DataType} {v : t.Val}

theorem written (h : Carries t v) : Json.Written t.read (t.write v) v := by
  cases h with
  | exact h _ _ => exact t.written_of_exact h v
  | json hs hr hp hd => exact Json.Value.written hs hr hp (Nat.lt_succ_of_le hd)

theorem route (h : Carries t v) :
    (Decoder.standard.route t .json).encode v = .ok (t.toJson v).toUTF8 ∧
      (Decoder.standard.route t .json).decode (t.toJson v) = .ok v := by
  have hcodec : Decoder.standard.conversions.converter? t = none →
      (Decoder.standard.route t .json).encode v = .ok (t.toJson v).toUTF8 ∧
        (Decoder.standard.route t .json).decode (t.toJson v) = .ok v := by
    intro hn
    rw [Decoder.standard_route_of_no_converter hn]
    refine ⟨rfl, ?_⟩
    rw [Route.decode, Codec.json_decode_of_written h.written]
  cases h with
  | json => exact hcodec rfl
  | exact h hs hc =>
    -- Numbers and words have converters, whose texts are those of JSON.
    cases t with
    | int k =>
      have hp : (Converter.int k).parse (DataType.toJson (.int k) v) = some v := k.parse?_render v
      refine ⟨rfl, ?_⟩
      change Route.decode (t := .int k) (.converter (.int k)) _ = _
      rw [Route.decode, hp]
    | bool => cases v <;> exact ⟨rfl, rfl⟩
    | string => exact absurd rfl hs
    | char => exact absurd rfl hc
    | point | ledger | tag | ints | strings | map | option | pair | unit | exitCodes | config
    | shifted | greetRequest | greeting => exact hcodec rfl
    | f32 | f64 | floats | json | raw | mediaType | registration | address | named => cases h

end Carries

/-- How a value goes from one function to the next: as a text, of which the next one reads what is
left without the end of its last line. -/
theorem Received.transfer {t : DataType} {v : t.Val} {received : Option t.Val}
    (h : Received t v received) :
    ∃ text, (Decoder.standard.route t .json).encode v = .ok text.toUTF8 ∧
      match received with
      | some w => dropLineEnd text ≠ "" ∧
        (Decoder.standard.route t .json).decode (dropLineEnd text) = .ok w
      | none => dropLineEnd text = "" := by
  cases h with
  | kept h =>
    have hu : (t.toJson v).toList.getLast? ≠ some '\n' := by
      intro hl
      rw [DataType.toJson, String.toList_ofList] at hl
      exact h.written.oneLine (List.mem_of_getLast? hl)
    have hn : t.toJson v ≠ "" := by
      obtain ⟨c, s, hc, -⟩ := h.written.opens
      simp [DataType.toJson, hc]
    refine ⟨t.toJson v, h.route.1, ?_⟩
    simp only [dropLineEnd_of_unended hu]
    exact ⟨hn, h.route.2⟩
  | @text s rest h hn =>
    refine ⟨s, rfl, ?_⟩
    simp only [h.dropLineEnd_eq]
    exact ⟨hn, rfl⟩
  | @nothing s h => exact ⟨s, rfl, h.dropLineEnd_eq⟩

namespace StreamFunction

variable {a b d : DataType} {c : Container} {functions : FunctionRegistry}

/-- What a stream function does with an input that is there. -/
def answer (e : StreamFunction a b) (c : Container) (v : a.Val) (sink : Sink) :
    Outcome Unit × Sink :=
  match e.function v with
  | .failed fault => (.failed fault, sink)
  | .panicked panic => (.panicked panic, sink)
  | .done output => c.encodeResult e.name b output sink

theorem run_of_input {e : StreamFunction a b} {source : Source} {v : a.Val}
    (h : e.input c source = .ok v) (sink : Sink) : e.run c source sink = e.answer c v sink := by
  rw [run, h]
  rfl

theorem run_of_input_error {e : StreamFunction a b} {source : Source} {fault : Fault}
    (h : e.input c source = .error fault) (sink : Sink) :
    e.run c source sink = (.failed fault, sink) := by
  rw [run, h]

theorem answer_of_done {e : StreamFunction a b} {v : a.Val} {output : b.Val}
    (h : e.function v = .done output) (sink : Sink) :
    e.answer c v sink = c.encodeResult e.name b output sink := by
  rw [answer, h]

theorem encoded_of_done {e : StreamFunction a b} {source : Source} {sink after : Sink} {v : b.Val}
    (hv : e.Gives c source v) (hr : e.run c source sink = (.done (), after)) :
    ∃ bytes, c.encodeValue e.name b v = .ok bytes ∧ after.bytes = sink.bytes ++ bytes := by
  obtain ⟨input, hi, hf⟩ := hv
  rw [run_of_input hi, answer_of_done hf, Container.encodeResult] at hr
  cases he : c.encodeValue e.name b v with
  | error fault =>
    rw [he] at hr
    cases hr
  | ok bytes =>
    rw [he] at hr
    exact ⟨bytes, rfl, Sink.put_bytes_of_done hr⟩

theorem readText_of_bytes {source : Source} {text : String} (hb : source.bytes = text.toUTF8)
    (hk : source.kind ≠ .broken) : source.readText = .ok text := by
  rw [Source.readText, if_neg (fun h => hk h.1), hb, fromUTF8?_toUTF8]

theorem input_of_text (ht : c.find? .conversions = some .standard)
    (hk : c.find? .codecs = some .standard) (hf : c.find? .functions = some functions)
    {e : StreamFunction a b} (hm : (functions.mediaTypeFor e.name).agrees .json = true)
    {source : Source} {text : String} (hr : source.readText = .ok text)
    (hn : dropLineEnd text ≠ "") :
    e.input c source = (Decoder.standard.route a .json).decode (dropLineEnd text) := by
  have he : (dropLineEnd text).isEmpty = false := by
    rw [← Bool.not_eq_true, String.isEmpty_iff]
    exact hn
  rw [input, hr, BeanStore.get_of_some hf, Container.decoder_of_beans ht hk]
  simp only [he, Bool.false_eq_true, if_false]
  rw [← Decoder.standard_route_of_agrees hm, ← Decoder.decodeWith_eq_route]
  rfl

theorem input_of_blank {e : StreamFunction a b} {source : Source} {text : String}
    (hr : source.readText = .ok text) (hn : dropLineEnd text = "") :
    e.input c source = .error .noData := by
  rw [input, hr]
  simp only [hn]
  rfl

/-- What the second of two stream functions makes of the bytes of the first: what it makes of the
value, or of nothing. -/
structure Piped (c : Container) (g : StreamFunction b d) (received : Option b.Val)
    (piped : Source) : Prop where
  some : ∀ w, received = some w → g.input c piped = .ok w ∧
    ∀ sink, g.run c piped sink = g.answer c w sink
  none : received = none → g.input c piped = .error .noData ∧
    ∀ sink, g.run c piped sink = (.failed .noData, sink)

theorem streams_compose (ht : c.find? .conversions = some .standard)
    (hk : c.find? .codecs = some .standard) (hf : c.find? .functions = some functions)
    (f : StreamFunction a b) (g : StreamFunction b d)
    (hmf : (functions.mediaTypeFor f.name).agrees .json = true)
    (hmg : (functions.mediaTypeFor g.name).agrees .json = true)
    {source : Source} {sink after : Sink} {v : b.Val} (hv : f.Gives c source v)
    (hr : f.run c source sink = (.done (), after)) :
    ∃ bytes, after.bytes = sink.bytes ++ bytes ∧
      (b = .string → ∃ received, Received b v received) ∧
      ∀ received, Received b v received → ∀ piped : Source, piped.bytes = bytes →
        piped.kind ≠ .broken → Piped c g received piped := by
  obtain ⟨bytes, he, ha⟩ := encoded_of_done hv hr
  refine ⟨bytes, ha, fun hb => Received.exists_of_string hb v, fun received h piped hp hu => ?_⟩
  obtain ⟨text, hx, hrest⟩ := h.transfer
  have hroute := Decoder.standard_route_of_agrees hmf b
  have hbytes := (Container.encodeValue_eq_route ht hk hf f.name b v).symm.trans he
  rw [show Decoder.route ⟨.standard, .standard⟩ b _ = _ from hroute, hx] at hbytes
  have ht' := readText_of_bytes (hp.trans (Except.ok.inj hbytes).symm) hu
  cases received with
  | none =>
    have hi : g.input c piped = .error .noData := input_of_blank ht' hrest
    exact ⟨nofun, fun _ => ⟨hi, run_of_input_error hi⟩⟩
  | some w =>
    have hi : g.input c piped = .ok w :=
      (input_of_text ht hk hf hmg ht' hrest.1).trans hrest.2
    refine ⟨fun w' hw => ?_, nofun⟩
    cases hw
    exact ⟨hi, run_of_input hi⟩

/-- A number that is raised by one twice. -/
theorem streams_compose_increment :
    let c := Container.standard
    let f : StreamFunction (.int .i64) (.int .i64) := ⟨"increment", Sample.increment⟩
    let source : Source := ⟨.whole, "41\n".toUTF8⟩
    let sink := Sink.new .short
    (c.find? .conversions = some .standard ∧ c.find? .codecs = some .standard ∧
      c.find? .functions = some .empty) ∧
    (FunctionRegistry.empty.mediaTypeFor f.name).agrees .json = true ∧
    f.Gives c source ⟨42, by decide⟩ ∧ ∃ after, f.run c source sink = (.done (), after) ∧
      ∃ bytes, after.bytes = sink.bytes ++ bytes ∧
        Piped c f (some ⟨42, by decide⟩) ⟨.bytewise, bytes⟩ := by
  intro c f source sink
  have hm : (FunctionRegistry.empty.mediaTypeFor f.name).agrees .json = true := rfl
  have ht : source.readText = .ok "41\n" := readText_of_bytes rfl nofun
  have hi : f.input c source = .ok ⟨41, by decide⟩ :=
    (input_of_text rfl rfl rfl hm ht (by decide)).trans rfl
  have hv : f.Gives c source ⟨42, by decide⟩ := ⟨_, hi, rfl⟩
  obtain ⟨after, hr⟩ : ∃ after, f.run c source sink = (.done (), after) :=
    ⟨_, (run_of_input hi sink).trans rfl⟩
  obtain ⟨bytes, ha, -, hp⟩ := streams_compose rfl rfl rfl f f hm hm hv hr
  exact ⟨⟨rfl, rfl, rfl⟩, hm, hv, after, hr, bytes, ha,
    hp _ (.kept (.exact (t := .int .i64) rfl (by decide) (by decide) _)) _ rfl nofun⟩

/-- A JSON value that is written and not read again, so that nothing comes of it behind the first of
two functions that do nothing. -/
theorem marked_not_composed :
    let c := Container.standard
    let f : StreamFunction .json .json := ⟨"tree", Sample.tree⟩
    let source : Source :=
      ⟨.whole, "\x7b\"a\":null,\"$serde_json::private::RawValue\":\"null\"\x7d".toUTF8⟩
    let sink := Sink.new .accepting
    (Codec.marked.Everywhere Json.Value.NotReal ∧ Codec.marked.depth ≤ 127) ∧
      f.Gives c source Codec.marked ∧
      ∃ after, f.run c source sink = (.done (), after) ∧
        f.answer c Codec.marked sink = (.done (), after) ∧
        ∃ fault, f.run c ⟨.whole, after.bytes⟩ sink = (.failed fault, sink) := by
  intro c f source sink
  have ht : source.readText =
      .ok "\x7b\"a\":null,\"$serde_json::private::RawValue\":\"null\"\x7d" := readText_of_bytes rfl nofun
  have hi : f.input c source = .ok Codec.marked :=
    (input_of_text rfl rfl rfl rfl ht (by decide)).trans rfl
  have hv : f.Gives c source Codec.marked := ⟨_, hi, rfl⟩
  obtain ⟨after, ha⟩ : ∃ after, f.answer c Codec.marked sink = (.done (), after) := ⟨_, rfl⟩
  have hr := (run_of_input hi sink).trans ha
  obtain ⟨bytes, he, hb⟩ := encoded_of_done hv hr
  have hbytes : bytes = (DataType.json.toJson Codec.marked).toUTF8 :=
    (Except.ok.inj he).symm
  have ht' : Source.readText ⟨.whole, after.bytes⟩ = .ok (DataType.json.toJson Codec.marked) :=
    readText_of_bytes (hb.trans (ByteArray.empty_append.trans hbytes)) (by simp)
  obtain ⟨fault, hx⟩ : ∃ fault, f.input c ⟨.whole, after.bytes⟩ = .error fault :=
    ⟨_, (input_of_text rfl rfl rfl rfl ht' (by decide)).trans rfl⟩
  exact ⟨⟨Codec.everywhere_marked trivial trivial trivial, by decide⟩, hv, after, hr, ha, fault,
    run_of_input_error hx sink⟩

end StreamFunction

end OneShot
