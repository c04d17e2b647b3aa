import OneShot.Proofs.Arguments
import OneShot.Proofs.Invocation.Output

/-! One payload by argument and by stream: both transports come to the same, if the function reads its
payload as JSON or by a converter. A missing codec has two names, and a sink that panics is guarded for
streams only. -/

namespace OneShot

theorem CodecRegistry.find?_of_agrees {m n : MediaType} (h : m.agrees n = true)
    (codecs : CodecRegistry) : codecs.find? m = codecs.find? n := by
  have he : m.essence = n.essence := beq_iff_eq.mp h
  simp only [find?, MediaType.agrees, he]

theorem dropLineEnd_of_unended {s : String} (h : s.toList.getLast? ≠ some '\n') :
    dropLineEnd s = s := by
  rw [List.getLast?_eq_head?_reverse] at h
  rw [dropLineEnd]
  split
  · rename_i hr
    exact absurd (by rw [hr]; rfl) h
  · rename_i hr
    exact absurd (by rw [hr]; rfl) h
  · rfl

/-- Two calls on an exit handler of one class, and of one kind of fault. -/
inductive ExitCall.Alike : ExitCall → ExitCall → Prop
  | success : Alike .success .success
  | noData : Alike .noData .noData
  | error {f g : Fault} (debug : Bool) (h : f.kind = g.kind) : Alike (.error f debug) (.error g debug)

theorem ExitCall.Alike.refl (call : ExitCall) : call.Alike call := by
  cases call with
  | success => exact .success
  | error fault debug => exact .error debug rfl
  | noData => exact .noData

/-- A payload that is passed by arguments and by a source. -/
structure Carried (payload : String) (debug : Bool) (argv : List ByteArray) (source : Source) :
    Prop where
  nonempty : payload ≠ ""
  unended : payload.toList.getLast? ≠ some '\n'
  passed : Arguments.Pass payload debug argv
  bytes : source.bytes = payload.toUTF8
  unbroken : source.kind ≠ .broken

variable {c : Container} {a b : DataType} {payload : String} {debug : Bool} {argv : List ByteArray}
  {source : Source} {table : ConversionTable} {codecs : CodecRegistry} {functions : FunctionRegistry}

theorem Carried.readText (h : Carried payload debug argv source) : source.readText = .ok payload := by
  rw [Source.readText, if_neg (fun hb => h.unbroken hb.1), h.bytes, fromUTF8?_toUTF8]

theorem Carried.context (h : Carried payload debug argv source)
    (ht : c.find? .conversions = some table) (hk : c.find? .codecs = some codecs) :
    c.context argv = .ok ⟨some payload, debug, ⟨table, codecs⟩⟩ := by
  rw [Container.context_of_beans ht hk, Context.parse, Arguments.parse_of_pass h.passed]
  rfl

theorem Carried.input (h : Carried payload debug argv source)
    (ht : c.find? .conversions = some table) (hk : c.find? .codecs = some codecs)
    (hf : c.find? .functions = some functions) (e : StreamFunction a b) :
    e.input c source =
      Decoder.decodeWith ⟨table, codecs⟩ a payload (functions.mediaTypeFor e.name) := by
  have he : payload.isEmpty = false := by
    rw [← Bool.not_eq_true, String.isEmpty_iff]
    exact h.nonempty
  simp only [StreamFunction.input, h.readText, dropLineEnd_of_unended h.unended, he, if_false,
    BeanStore.get_of_some hf, Container.decoder, BeanStore.get_of_some ht, BeanStore.get_of_some hk,
    Bool.false_eq_true]
  rfl

namespace Container

/-- A handler that goes by the media type that an error names. -/
def goingByMedia : ExitHandler :=
  ⟨fun
    | .error (.unconvertible _ _ (some (.noCodec media))) _ =>
      ⟨.failure, if media = .json then 3 else 4⟩
    | call => Exit.ofStatus call.status .standard, .silent⟩

/-- The functions of a host that gives its results in a version of JSON. -/
def versioned : FunctionRegistry :=
  FunctionRegistry.empty.register
    ⟨"function", ⟨"application/json", Dictionary.empty.insert "version" "1"⟩⟩

/-- Their container, which has no codec, not even for JSON. -/
def uncoded : Container :=
  ((standard.register .codecs .empty).register .functions versioned).register .handler goingByMedia

end Container

end OneShot
