import OneShot.Proofs.Invocation.Composition

/-! From the bytes of a stream to the input of a function. The payload is the text of the stream without
the end of its last line; a stream that is no text and a payload that is empty do not reach the function,
and any other one reaches it at most once. -/

namespace OneShot

namespace Source

/-- The source gives the bytes of a text, to their end. -/
structure Yields (source : Source) (text : String) : Prop where
  bytes : source.bytes = text.toUTF8
  unbroken : source.kind = .broken → text = ""

theorem Yields.readText {source : Source} {text : String} (h : source.Yields text) :
    source.readText = .ok text := by
  have hn : ¬ (source.kind = .broken ∧ source.bytes.size ≠ 0) := by
    rintro ⟨hk, hz⟩
    rw [h.bytes, h.unbroken hk] at hz
    exact hz rfl
  rw [Source.readText, if_neg hn, h.bytes, fromUTF8?_toUTF8]

theorem yields_of_readText {source : Source} {text : String}
    (h : source.readText = .ok text) : source.Yields text := by
  rw [Source.readText] at h
  split at h
  · cases h
  · rename_i hn
    split at h
    · rename_i hb
      cases h
      have hbytes := eq_toUTF8_of_fromUTF8? hb
      refine ⟨hbytes, fun hk => ?_⟩
      have hz : source.bytes.size = 0 := by_contra fun hz => hn ⟨hk, hz⟩
      rw [hbytes] at hz
      exact String.utf8ByteSize_eq_zero_iff.mp hz
    · cases h

/-- The source gives a text that is the payload but for the end of its last line. -/
def Brings (source : Source) (payload : String) : Prop :=
  ∃ text, source.Yields text ∧ LineEnd text payload

theorem Yields.existsUnique_payload {source : Source} {text : String} (h : source.Yields text) :
    ∃! payload, source.Brings payload := by
  refine ⟨dropLineEnd text, ⟨text, h, lineEnd_dropLineEnd text⟩, ?_⟩
  rintro payload ⟨text', h', hl⟩
  have ht : text' = text := Except.ok.inj (h'.readText.symm.trans h.readText)
  rw [← hl.dropLineEnd_eq, ht]

theorem readText_of_not_yields {source : Source} (h : ∀ text, ¬ source.Yields text) :
    ∃ fault, source.readText = .error fault := by
  cases hr : source.readText with
  | error fault => exact ⟨fault, rfl⟩
  | ok text => exact absurd (yields_of_readText hr) (h text)

end Source

namespace StreamFunction

variable {a b : DataType} {c : Container} {e : StreamFunction a b} {source : Source} {sink : Sink}
  {text payload : String}

section Effects

variable {m : Type → Type} [Monad m]

/-- What becomes of the answer to a call. -/
def settle (e : StreamFunction a b) (c : Container) (sink : Sink) :
    Outcome b.Val → Outcome Unit × Sink
  | .failed fault => (.failed fault, sink)
  | .panicked panic => (.panicked panic, sink)
  | .done output => c.encodeResult e.name b output sink

/-- A run whose function may have effects besides its answer. -/
def runWith (e : StreamFunction a b) (call : a.Val → m (Outcome b.Val)) (c : Container)
    (source : Source) (sink : Sink) : m (Outcome Unit × Sink) := do
  match e.input c source with
  | .error fault => return (.failed fault, sink)
  | .ok input => return e.settle c sink (← call input)

/-- The run of a function without effects. -/
theorem runWith_pure [LawfulMonad m] (e : StreamFunction a b) (c : Container) (source : Source)
    (sink : Sink) :
    e.runWith (fun v => pure (e.function v) : a.Val → m (Outcome b.Val)) c source sink =
      pure (e.run c source sink) := by
  rw [runWith, run]
  cases e.input c source with
  | error fault => rfl
  | ok input =>
    simp only [pure_bind]
    cases e.function input <;> rfl

end Effects

/-- Calls the function and keeps the input. -/
def recording (e : StreamFunction a b) (v : a.Val) : StateM (List a.Val) (Outcome b.Val) := do
  modify (· ++ [v])
  return e.function v

/-- The inputs that the function is called with in a run. -/
def calls (e : StreamFunction a b) (c : Container) (source : Source) (sink : Sink) : List a.Val :=
  ((e.runWith e.recording c source sink).run []).2

theorem runWith_recording (e : StreamFunction a b) (c : Container) (source : Source) (sink : Sink) :
    (e.runWith e.recording c source sink).run [] =
      (e.run c source sink, match e.input c source with
        | .error _ => []
        | .ok v => [v]) := by
  rw [runWith, run]
  cases e.input c source with
  | error fault => rfl
  | ok v =>
    change (e.settle c sink (e.function v), [v]) = _
    cases hf : e.function v <;> simp only [settle, hf]

theorem calls_of_input {v : a.Val} (h : e.input c source = .ok v) (sink : Sink) :
    e.calls c source sink = [v] := by
  rw [calls, runWith_recording, h]

theorem calls_of_input_error {fault : Fault} (h : e.input c source = .error fault) (sink : Sink) :
    e.calls c source sink = [] := by
  rw [calls, runWith_recording, h]

/-- A run depends on the answers to its calls and on no other answer of the function. -/
theorem run_of_calls {e' : StreamFunction a b} (hn : e'.name = e.name)
    (h : ∀ v ∈ e.calls c source sink, e'.function v = e.function v) :
    e'.run c source sink = e.run c source sink := by
  have hi : e'.input c source = e.input c source := by rw [input, input, hn]
  cases hv : e.input c source with
  | error fault => rw [run_of_input_error hv, run_of_input_error (hi.trans hv)]
  | ok v =>
    rw [calls_of_input hv] at h
    rw [run_of_input hv, run_of_input (hi.trans hv), answer, answer, h v List.mem_cons_self, hn]

/-- A run that ends with a fault before the function is called. -/
def Refused (e : StreamFunction a b) (c : Container) (source : Source) (sink : Sink)
    (fault : Fault) : Prop :=
  e.run c source sink = (.failed fault, sink) ∧ e.calls c source sink = []

theorem refused_of_input_error {fault : Fault} (h : e.input c source = .error fault)
    (sink : Sink) : e.Refused c source sink fault :=
  ⟨run_of_input_error h sink, calls_of_input_error h sink⟩

/-- Two sources that a stream function makes the same of. -/
structure SameRun (e : StreamFunction a b) (c : Container) (x y : Source) : Prop where
  outcome : ∀ sink, e.run c x sink = e.run c y sink
  calls : ∀ sink, e.calls c x sink = e.calls c y sink
  report : ∀ sink debug, c.executeStream x sink e debug = c.executeStream y sink e debug

theorem sameRun_of_input {x y : Source} (h : e.input c x = e.input c y) : e.SameRun c x y := by
  have hr : ∀ sink, e.run c x sink = e.run c y sink := by
    intro sink
    rw [run, run, h]
  refine ⟨hr, fun sink => ?_, fun sink debug => ?_⟩
  · rw [StreamFunction.calls, StreamFunction.calls, runWith, runWith, h]
  · rw [Container.executeStream, Container.executeStream, Container.stream, Container.stream, hr]

theorem input_of_payload (h : source.Brings payload) (hn : payload ≠ "") :
    e.input c source = (do
      let functions ← c.get .functions
      let decoder ← c.decoder
      decoder.decodeWith a payload (functions.mediaTypeFor e.name)) := by
  obtain ⟨text, hy, hl⟩ := h
  have he : payload.isEmpty = false := by
    rw [← Bool.not_eq_true, String.isEmpty_iff]
    exact hn
  rw [input, hy.readText]
  simp only [hl.dropLineEnd_eq, he, Bool.false_eq_true, if_false]

/-- The beans that a stream function needs for any payload, in the order it asks for them. -/
def needs : List BeanKind :=
  [.functions, .conversions, .codecs]

/-- What the beans of a container make of a payload for a function. -/
inductive Decodes (e : StreamFunction a b) (c : Container) (payload : String) :
    Except Fault a.Val → Prop
  | intro {functions : FunctionRegistry} {table : ConversionTable} {codecs : CodecRegistry}
      (hf : c.find? .functions = some functions) (ht : c.find? .conversions = some table)
      (hk : c.find? .codecs = some codecs) : Decodes e c payload
        (Decoder.decodeWith ⟨table, codecs⟩ a payload (functions.mediaTypeFor e.name))

theorem exists_decodes (h : ∀ kind ∈ needs, c.find? kind ≠ none) (payload : String) :
    ∃ decoded, e.Decodes c payload decoded := by
  obtain ⟨functions, hf⟩ := Option.ne_none_iff_exists'.mp (h .functions (by decide))
  obtain ⟨table, ht⟩ := Option.ne_none_iff_exists'.mp (h .conversions (by decide))
  obtain ⟨codecs, hk⟩ := Option.ne_none_iff_exists'.mp (h .codecs (by decide))
  exact ⟨_, .intro hf ht hk⟩

theorem Decodes.exists_unconvertible {fault : Fault} (h : e.Decodes c payload (.error fault)) :
    ∃ reason, fault = .unconvertible payload a.name (some reason) := by
  generalize hd : (Except.error fault : Except Fault a.Val) = decoded at h
  cases h
  exact Decoder.decodeWith_eq_error hd.symm

theorem input_of_decodes {decoded : Except Fault a.Val} (h : source.Brings payload)
    (hn : payload ≠ "") (hd : e.Decodes c payload decoded) : e.input c source = decoded := by
  obtain ⟨hf, ht, hk⟩ := hd
  rw [input_of_payload h hn, BeanStore.get_of_some hf, Container.decoder_of_beans ht hk]
  rfl

theorem input_of_missing (h : source.Brings payload) (hn : payload ≠ "")
    (hm : ∃ kind ∈ needs, c.find? kind = none) :
    ∃ kind ∈ needs, c.find? kind = none ∧
      e.input c source = .error (.beanNotFound kind.typeName) := by
  rw [input_of_payload h hn]
  cases hf : c.find? .functions with
  | none =>
    refine ⟨_, by decide, hf, ?_⟩
    rw [BeanStore.get_of_none hf]
    rfl
  | some functions =>
    rw [BeanStore.get_of_some hf, Container.decoder]
    cases ht : c.find? .conversions with
    | none =>
      refine ⟨_, by decide, ht, ?_⟩
      rw [BeanStore.get_of_none ht]
      rfl
    | some table =>
      rw [BeanStore.get_of_some ht]
      cases hk : c.find? .codecs with
      | none =>
        refine ⟨_, by decide, hk, ?_⟩
        rw [BeanStore.get_of_none hk]
        rfl
      | some codecs =>
        obtain ⟨kind, hkind, hnone⟩ := hm
        simp only [needs, List.mem_cons, List.not_mem_nil, or_false] at hkind
        rcases hkind with rfl | rfl | rfl <;> simp_all

/-- The way of a stream of bytes to a function. -/
structure Framed (e : StreamFunction a b) (c : Container) : Prop where
  not_utf8 : ∀ source sink, (∀ text : String, source.bytes ≠ text.toUTF8) →
    ∃ fault, e.Refused c source sink (.io fault)
  broken : ∀ source sink, source.kind = .broken → source.bytes.size ≠ 0 →
    ∃ fault, e.Refused c source sink (.io fault)
  one_payload : ∀ (source : Source) (text : String), source.Yields text →
    ∃! payload, source.Brings payload
  blank : ∀ source sink, source.Brings "" → e.Refused c source sink .noData
  unequipped : ∀ source sink payload, source.Brings payload → payload ≠ "" →
    (∃ kind ∈ needs, c.find? kind = none) →
    ∃ kind ∈ needs, c.find? kind = none ∧ e.Refused c source sink (.beanNotFound kind.typeName)
  equipped : (∀ kind ∈ needs, c.find? kind ≠ none) →
    ∀ payload, ∃ decoded, e.Decodes c payload decoded
  undecodable : ∀ source sink payload, source.Brings payload → payload ≠ "" →
    ∀ fault, e.Decodes c payload (.error fault) →
    ∃ reason, e.Refused c source sink (.unconvertible payload a.name (some reason))
  decoded : ∀ source sink payload, source.Brings payload → payload ≠ "" →
    ∀ v, e.Decodes c payload (.ok v) →
    e.run c source sink = e.answer c v sink ∧ e.calls c source sink = [v]
  at_most_once : ∀ source sink, (e.calls c source sink).length ≤ 1
  /-- Nothing comes of the function but its answers to the calls. -/
  by_calls : ∀ source sink, ∀ e' : StreamFunction a b, e'.name = e.name →
    (∀ v ∈ e.calls c source sink, e'.function v = e.function v) →
    e'.run c source sink = e.run c source sink
  line_ends : ∀ text : String, text.toList.getLast? ≠ some '\r' → text.toList.getLast? ≠ some '\n' →
    ∀ plain lf crlf : Source, plain.Yields text → lf.Yields (text ++ "\n") →
    crlf.Yields (text ++ "\r\n") → e.SameRun c lf plain ∧ e.SameRun c crlf plain

/-- Sources of one payload come to the same, however their last lines end. -/
theorem sameRun_of_payload {x y : Source} (hx : x.Brings payload) (hy : y.Brings payload) :
    e.SameRun c x y := by
  obtain ⟨text, ht, hl⟩ := hx
  obtain ⟨text', ht', hl'⟩ := hy
  refine sameRun_of_input ?_
  rw [input, input, ht.readText, ht'.readText]
  simp only [hl.dropLineEnd_eq, hl'.dropLineEnd_eq]

/-- A function is called with what its payload decodes to or not at all, and the end of the last line makes
no difference. -/
theorem framed (e : StreamFunction a b) (c : Container) : e.Framed c := by
  have hio : ∀ source sink, (∀ text, ¬ source.Yields text) →
      ∃ fault, e.Refused c source sink (.io fault) := by
    intro source sink h
    obtain ⟨fault, hr⟩ := Source.readText_of_not_yields h
    refine ⟨fault, refused_of_input_error ?_ sink⟩
    rw [input, hr]
  refine ⟨?not_utf8, ?broken, fun _ _ hy => hy.existsUnique_payload, ?blank, ?unequipped,
    exists_decodes, ?undecodable, ?decoded, ?at_most_once, fun _ _ _ hn => run_of_calls hn,
    ?line_ends⟩
  case not_utf8 => exact fun source sink h => hio source sink fun text hy => h text hy.bytes
  case broken =>
    intro source sink hk hz
    refine hio source sink fun text hy => hz ?_
    rw [hy.bytes, hy.unbroken hk]
    rfl
  case blank =>
    rintro source sink ⟨text, hy, hl⟩
    exact refused_of_input_error (input_of_blank hy.readText hl.dropLineEnd_eq) sink
  case unequipped =>
    intro source sink payload h hn hm
    obtain ⟨kind, hkind, hnone, hi⟩ := input_of_missing h hn hm
    exact ⟨kind, hkind, hnone, refused_of_input_error hi sink⟩
  case undecodable =>
    intro source sink payload h hn fault hd
    obtain ⟨reason, rfl⟩ := hd.exists_unconvertible
    exact ⟨reason, refused_of_input_error (input_of_decodes h hn hd) sink⟩
  case decoded =>
    intro source sink payload h hn v hd
    have hi := input_of_decodes h hn hd
    exact ⟨run_of_input hi sink, calls_of_input hi sink⟩
  case at_most_once =>
    intro source sink
    cases hi : e.input c source with
    | error fault =>
      rw [calls_of_input_error hi]
      exact Nat.zero_le 1
    | ok v =>
      rw [calls_of_input hi]
      exact Nat.le_refl 1
  case line_ends =>
    intro text hr hn plain lf crlf hp hlf hcrlf
    have hplain : plain.Brings text := ⟨text, hp, .none hn⟩
    exact ⟨sameRun_of_payload ⟨_, hlf, .lf hr⟩ hplain,
      sameRun_of_payload ⟨_, hcrlf, .crlf text⟩ hplain⟩

end StreamFunction

end OneShot
