import OneShot.Proofs.Command.Payload
import OneShot.Proofs.Decoder.Structured
import OneShot.Proofs.Text

/-! The process that greets somebody by name. Whatever the name is, the greeting is a JSON text of an
object with one member, of which the message can be read again. -/

namespace OneShot

open Json

/-- A name and what is left of it without the white space around it. -/
structure Trims (name core : String) : Prop where
  stripped : Stripped isBlank core.toList
  around : ∃ l r, name.toList = l ++ (core.toList ++ r) ∧ (∀ c ∈ l, isBlank c = true) ∧
    ∀ c ∈ r, isBlank c = true

theorem trims_trim (name : String) : Trims name (trim name) := by
  constructor
  · rw [trim, String.toList_ofList]
    exact stripped_strip isBlank name.toList
  · rw [trim, String.toList_ofList]
    exact exists_strip isBlank name.toList

theorem Trims.eq_trim {name core : String} (h : Trims name core) : core = trim name := by
  obtain ⟨l, r, hn, hl, hr⟩ := h.around
  rw [trim, hn, strip_append_left hl, strip_append_right hr, strip_eq_self_iff.mpr h.stripped,
    String.ofList_toList]

namespace Builtin

/-- The fault of a name that is blank. -/
def nameless : Fault :=
  .function (.plain "name must not be empty")

theorem greet_of_blank {request : GreetRequest} (h : request.name.toList.all isBlank = true) :
    greet request = .failed nameless := by
  rw [greet]
  exact if_pos (trim_eq_empty_iff.mpr h)

theorem greet_of_not_blank {request : GreetRequest} (h : request.name.toList.all isBlank = false) :
    greet request = .done ⟨"Hello, " ++ trim request.name ++ "!"⟩ := by
  have hne : ¬ (trim request.name).isEmpty = true := by
    rw [trim_eq_empty_iff, h]
    exact Bool.false_ne_true
  rw [greet]
  exact if_neg hne

end Builtin

namespace Command

open Arguments

variable {env : Environment} {config : Config} {argv : List ByteArray} {payload name : String}
  {debug : Bool}

/-- A payload that is a request to greet somebody of a name. -/
def Requests (payload name : String) : Prop :=
  ∃ text, Padded text payload.toList ∧ OneField "name" IsString text name

/-- A JSON text of an object with one member, a message, and what is read of it. -/
structure Announces (text message : String) : Prop where
  object : ∃ literal, HasMembers text.toList [("message", literal)] ∧ IsString literal message
  read : Codec.json.decode .json text = .ok (.object [("message", .string message)])

/-- What the process does with a payload that is to ask for a greeting. -/
structure Greets (env : Environment) (config : Config) (argv : List ByteArray) (payload : String) :
    Prop where
  decoded : ∀ r, Decoder.standard.decode .greetRequest payload = .ok r ↔ Requests payload r.name
  accepts : (run env argv).code = 0 ↔
    ∃ name, Requests payload name ∧ name.toList.all isBlank = false
  greets : ∀ name, Requests payload name → name.toList.all isBlank = false →
    ∃ core text, Trims name core ∧ Announces text ("Hello, " ++ core ++ "!") ∧
      Delivers env config argv text.toUTF8
  nameless : ∀ name, Requests payload name → name.toList.all isBlank = true →
    Refuses env config argv Builtin.nameless
  undecodable : (¬ ∃ name, Requests payload name) →
    ∃ reason, Refuses env config argv
      (.unconvertible payload DataType.greetRequest.name (some reason))

theorem requests_of_literal {literal w : List Char} (hl : IsString literal name) (hw : Space w)
    (hp : payload.toList = '\x7b' :: (quote "name" ++ ':' :: (w ++ (literal ++ ['\x7d'])))) :
    Requests payload name := by
  have hname : IsName ("name".toList.flatMap escape) "name" := spells_flatMap_escape _
  have hm : Member IsName _ ("name", literal) := .mk hname space_nil hw
  have he : IsObject IsName _ [("name", literal)] := .pieces space_nil hm (.done space_nil)
  have ho : IsObject IsName payload.toList [("name", literal)] := by
    rw [hp, quote_eq]
    simpa only [List.nil_append, List.append_assoc, List.cons_append] using he
  have hg : Given IsString "name" [("name", literal)] (some name) :=
    Given.cons_self.mpr ⟨nofun, name, rfl, hl⟩
  exact ⟨payload.toList, padded_self _, .object ho hg (by simp)⟩

theorem decode_greetRequest_iff {r : GreetRequest} :
    Decoder.standard.decode .greetRequest payload = .ok r ↔ Requests payload r.name := by
  have hread : Recognizes DataType.greetRequest.read _ :=
    recognizes_oneField (recognizes_string _) GreetRequest.mk
  rw [Decoder.decode_eq_ok_iff rfl hread]
  constructor
  · rintro ⟨text, hp, name, hn, rfl⟩
    exact ⟨text, hp, hn⟩
  · rintro ⟨text, hp, hn⟩
    exact ⟨text, hp, r.name, hn, rfl⟩

theorem written_member {name : String} (h : name ≠ embeddingName) (text : String) :
    Written readValue (Value.object [(name, .string text)]).write
      (.object [(name, .string text)]) := by
  have hall : ∀ {p : Value → Prop}, p (.object [(name, .string text)]) → p (.string text) →
      (Value.object [(name, .string text)]).Everywhere p :=
    fun ho hs => .object ho (List.forall_mem_singleton.mpr (.string hs))
  exact Value.written (hall (List.pairwise_singleton _ _) trivial) (hall trivial trivial)
    (hall h trivial) (by change 1 < depthLimit; decide)

theorem announces_toJson (g : Greeting) : Announces (DataType.greeting.toJson g) g.message := by
  let v : Value := .object [("message", .string g.message)]
  have hobject : DataType.greeting.write g = objectText [memberText "message" (quote g.message)] := rfl
  have hvalue : DataType.greeting.write g = DataType.json.write v := rfl
  constructor
  · have ho := isObject_objectText [("message", quote g.message)]
    have hs := isString_quote g.message
    refine ⟨quote g.message, ⟨?_, List.forall_mem_singleton.mpr hs.wellFormed⟩, hs⟩
    rw [DataType.toJson, String.toList_ofList, hobject]
    exact ho
  · have hname : "message" ≠ embeddingName := by decide
    have hw : Written DataType.json.read (DataType.json.write v) v := written_member hname g.message
    rw [DataType.toJson, hvalue]
    exact Codec.json_decode_of_written hw

def greetBuiltin : Builtin :=
  ⟨"greet", .json, .greetRequest, .greeting, Builtin.greet⟩

theorem greetBuiltin_mem : greetBuiltin ∈ Builtin.all :=
  List.mem_cons_of_mem _ (List.mem_cons_of_mem _ List.mem_cons_self)

-- By `rfl` the two sides are compared inside of the trimming.
theorem greetBuiltin_function : greetBuiltin.function = Builtin.greet := by
  dsimp only [greetBuiltin]

theorem encoded_greeting (g : Greeting) :
    greetBuiltin.encoded g = (DataType.greeting.toJson g).toUTF8 := rfl

theorem greets_of_requests (h : loadConfig env = .ok config) (hn : config.functionName = "greet")
    (ha : Supplies payload debug argv) (hr : Requests payload name)
    (hb : name.toList.all isBlank = false) :
    ∃ core text, Trims name core ∧ Announces text ("Hello, " ++ core ++ "!") ∧
      Delivers env config argv text.toUTF8 := by
  have hi : Decoder.standard.decode .greetRequest payload = .ok ⟨name⟩ :=
    decode_greetRequest_iff.mpr hr
  have ho : greetBuiltin.function ⟨name⟩ = .done ⟨"Hello, " ++ trim name ++ "!"⟩ := by
    rw [greetBuiltin_function]
    exact Builtin.greet_of_not_blank hb
  have hd := delivers_of_done h greetBuiltin_mem hn ha hi ho
  rw [encoded_greeting] at hd
  exact ⟨trim name, _, trims_trim name, announces_toJson _, hd⟩

theorem refuses_of_nameless (h : loadConfig env = .ok config) (hn : config.functionName = "greet")
    (ha : Supplies payload debug argv) (hr : Requests payload name)
    (hb : name.toList.all isBlank = true) : Refuses env config argv Builtin.nameless := by
  have hi : Decoder.standard.decode .greetRequest payload = .ok ⟨name⟩ :=
    decode_greetRequest_iff.mpr hr
  have ho : greetBuiltin.function ⟨name⟩ = .failed Builtin.nameless := by
    rw [greetBuiltin_function]
    exact Builtin.greet_of_blank hb
  exact refuses_of_failed h greetBuiltin_mem hn ha hi ho

theorem refuses_of_no_request (h : loadConfig env = .ok config) (hn : config.functionName = "greet")
    (ha : Supplies payload debug argv) (hno : ¬ ∃ name, Requests payload name) :
    ∃ reason, Refuses env config argv
      (.unconvertible payload DataType.greetRequest.name (some reason)) :=
  refuses_of_no_input h greetBuiltin_mem hn ha
    fun r hi => hno ⟨r.name, decode_greetRequest_iff.mp hi⟩

theorem greets (h : loadConfig env = .ok config) (hn : config.functionName = "greet")
    (ha : Supplies payload debug argv) : Greets env config argv payload := by
  refine ⟨fun r => decode_greetRequest_iff, ⟨fun hc => ?_, ?_⟩,
    fun name hr hb => greets_of_requests h hn ha hr hb,
    fun name hr hb => refuses_of_nameless h hn ha hr hb, refuses_of_no_request h hn ha⟩
  · obtain ⟨r, -, hi, -⟩ := (code_eq_zero_iff h greetBuiltin_mem hn ha).mp hc
    have hr : Requests payload r.name := decode_greetRequest_iff.mp hi
    refine ⟨r.name, hr, Bool.eq_false_iff.mpr fun hb => ?_⟩
    exact (refuses_of_nameless h hn ha hr hb).failed hc
  · rintro ⟨name, hr, hb⟩
    obtain ⟨core, text, -, -, hd⟩ := greets_of_requests h hn ha hr hb
    exact hd.code

/-- The process greets everybody who has a name in its payload, in a JSON text that no name breaks out
of. It refuses a blank name for its function, and a payload that is no request for its form. Any literal
of a name makes a request. -/
theorem greet_json (h : loadConfig env = .ok config) (hn : config.functionName = "greet") :
    (∀ payload debug argv, Supplies payload debug argv → Greets env config argv payload) ∧
    (∀ name, IsString (quote name) name) ∧
    ∀ name literal w payload, IsString literal name → Space w →
      payload.toList = '\x7b' :: (quote "name" ++ ':' :: (w ++ (literal ++ ['\x7d']))) →
      name.toList.all isBlank = false →
        Requests payload name ∧
          ∀ debug argv, Supplies payload debug argv → (run env argv).code = 0 := by
  refine ⟨fun _ _ _ ha => greets h hn ha, isString_quote, ?_⟩
  intro name literal w payload hl hw hp hb
  have hr : Requests payload name := requests_of_literal hl hw hp
  exact ⟨hr, fun debug argv ha => (greets h hn ha).accepts.mpr ⟨name, hr, hb⟩⟩

/-- A name that would close its own text, a blank name, and a list that stands for nobody. -/
theorem greet_json_quotes :
    let env : Environment := ⟨.folder [], none, ["work"], none, some "greet".toUTF8, none, .plain⟩
    let config : Config := { Config.standard with functionName := "greet" }
    let closing := " \"\x7d\\\x01 "
    let named := "\x7b\"name\": \" \\\"\x7d\\\\\\u0001 \"\x7d"
    let blank := "[\"\u2003\"]"
    let nobody := "[]"
    let call := fun payload : String => ["--data".toUTF8, payload.toUTF8]
    loadConfig env = .ok config ∧ Requests named closing ∧ Requests blank "\u2003" ∧
      (run env (call named)).code = 0 ∧
      (∃ text, Announces text "Hello, \"\x7d\\\x01!" ∧
        Delivers env config (call named) text.toUTF8) ∧
      Refuses env config (call blank) Builtin.nameless ∧
      ∃ reason, Refuses env config (call nobody)
        (.unconvertible nobody DataType.greetRequest.name (some reason)) := by
  intro env config closing named blank nobody call
  have hload : loadConfig env = .ok config := loadConfig_of_function rfl rfl rfl rfl
  obtain ⟨hone, hquote, hliteral⟩ := greet_json hload rfl
  have ha : ∀ payload, Supplies payload false (call payload) := fun _ => Pass.plain.supplies
  have hspace : Space [' '] := List.forall_mem_singleton.mpr List.mem_cons_self
  have htext : named.toList =
      '\x7b' :: (quote "name" ++ ':' :: ([' '] ++ (quote closing ++ ['\x7d']))) := by decide
  have hname : closing.toList.all isBlank = false := by decide
  obtain ⟨hr, haccepted⟩ := hliteral closing _ _ named (hquote closing) hspace htext hname
  obtain ⟨core, text, htrims, htold, hd⟩ := (hone _ _ _ (ha named)).greets _ hr hname
  have hcore : core = "\"\x7d\\\x01" := htrims.eq_trim.trans (by decide)
  rw [hcore] at htold
  have hdecode : Decoder.standard.decode .greetRequest "[\"\u2003\"]" = .ok ⟨"\u2003"⟩ := rfl
  have hb : Requests blank "\u2003" := ((hone _ _ _ (ha blank)).decoded ⟨"\u2003"⟩).mp hdecode
  have hno : ¬ ∃ name, Requests nobody name := by
    rintro ⟨name, hr⟩
    have hd := ((hone _ _ _ (ha nobody)).decoded ⟨name⟩).mpr hr
    have he : ∃ fault, Decoder.standard.decode .greetRequest "[]" = .error fault := ⟨_, rfl⟩
    obtain ⟨fault, he⟩ := he
    cases hd.symm.trans he
  exact ⟨hload, hr, hb, haccepted _ _ (ha named), ⟨text, htold, hd⟩,
    (hone _ _ _ (ha blank)).nameless _ hb (by decide), (hone _ _ _ (ha nobody)).undecodable hno⟩

end Command

end OneShot
