import OneShot.Proofs.Command.Payload
import OneShot.Proofs.Decoder
import OneShot.Proofs.Text

/-! The process that returns its payload. It takes the texts of JSON and no others, and it writes them as
they stand, without the white space around them. -/

namespace OneShot

namespace Json

variable {text s : List Char}

theorem dropWhile_of_padding {w r : List Char} (hw : Space w) (h : ∀ c ∈ text.head?, isSpace c = false)
    (hne : text ≠ []) : (w ++ (text ++ r)).dropWhile isSpace = text ++ r := by
  obtain ⟨c, t, rfl⟩ := List.exists_cons_of_ne_nil hne
  exact (hw.skipSpace_append _).trans (skipSpace_cons (h c rfl) (t ++ r))

theorem Padded.strip_eq (hp : Padded text s) (h : Stripped isSpace text) (hne : text ≠ []) :
    strip isSpace s = text := by
  obtain ⟨l, r, hl, hr, rfl⟩ := hp
  have hspace : Space r.reverse := fun c hc => hr c (List.mem_reverse.mp hc)
  have hlast : ∀ c ∈ text.reverse.head?, isSpace c = false := by
    rw [List.head?_reverse]
    exact h.2
  have hback : (r.reverse ++ (text.reverse ++ [])).dropWhile isSpace = text.reverse ++ [] :=
    dropWhile_of_padding hspace hlast (by simpa using hne)
  rw [strip, dropWhile_of_padding hl h.1 hne, List.reverse_append]
  simp only [List.append_nil] at hback
  rw [hback, List.reverse_reverse]

theorem isSpace_of_isDigit {c : Char} (h : c.isDigit = true) : isSpace c = false :=
  isSpace_of_opensValue (by simp [opensValue, startsNumber, h])

theorem IsNumber.isSpace_eq_false (h : IsNumber text) : ∀ c ∈ text, isSpace c = false := by
  have hdigits : ∀ ds, Digits ds → ∀ c ∈ ds, isSpace c = false :=
    fun ds hd c hc => isSpace_of_isDigit (hd.2 c hc)
  obtain @⟨sign, whole, fraction, power, hs, hw, hf, hp⟩ := h
  simp only [List.mem_append]
  rintro c (hc | hc | hc | hc)
  · rcases hs with rfl | rfl
    · cases hc
    · rw [List.mem_singleton.mp hc]
      rfl
  · exact hdigits whole hw.1 c hc
  · cases hf with
    | absent => cases hc
    | point hd =>
      rcases List.mem_cons.mp hc with rfl | hc
      · rfl
      · exact hdigits _ hd c hc
  · cases hp with
    | absent => cases hc
    | exponent he hs hd =>
      rcases List.mem_cons.mp hc with rfl | hc
      · rcases he with rfl | rfl <;> rfl
      · rcases List.mem_append.mp hc with hc | hc
        · rcases hs with rfl | rfl | rfl
          · cases hc
          · rw [List.mem_singleton.mp hc]
            rfl
          · rw [List.mem_singleton.mp hc]
            rfl
        · exact hdigits _ hd c hc

theorem Enclosed.getLast? {α : Type} {first last : Char} {Piece : List Char → α → Prop} {as : List α}
    (h : Enclosed first last Piece text as) : text.getLast? = some last := by
  cases h with
  | @empty w => exact List.getLast?_concat (l := first :: w)
  | @pieces w p rest =>
    have he : first :: (w ++ (p ++ (rest ++ [last]))) = (first :: (w ++ (p ++ rest))) ++ [last] := by
      simp
    rw [he, List.getLast?_concat]

/-- The text of a value has no white space at its ends. -/
theorem WellFormed.stripped (h : WellFormed text) : Stripped isSpace text := by
  constructor
  · obtain ⟨c, t, rfl, hc⟩ := h.opens
    rintro d ⟨⟩
    exact isSpace_of_opensValue hc
  · intro c hc
    cases h with
    | null =>
      cases hc
      rfl
    | bool b => cases b <;> cases hc <;> rfl
    | number h => exact h.isSpace_eq_false c (List.mem_of_getLast? hc)
    | string =>
      rw [← List.cons_append, List.getLast?_concat] at hc
      cases hc
      rfl
    | array h =>
      rw [h.getLast?] at hc
      cases hc
      rfl
    | object h =>
      rw [h.getLast?] at hc
      cases hc
      rfl

end Json

namespace Command

open Json

variable {env : Environment} {config : Config} {argv : List ByteArray}

/-- What a process does with a payload that it is to return. -/
structure Echoed (env : Environment) (config : Config) (argv : List ByteArray) (payload : String)
    (debug : Bool) (finish : Finish) : Prop where
  accepts : finish.code = 0 ↔ ∃ text, Padded text payload.toList ∧ WellFormed text
  returns : ∀ text, Padded text payload.toList → WellFormed text →
    text = strip isSpace payload.toList ∧ finish.out = (String.ofList text).toUTF8 ∧
      finish.err = warningLine env config argv
  refuses : (¬ ∃ text, Padded text payload.toList ∧ WellFormed text) →
    finish.code = config.exitCodes.error ∧ finish.out = ByteArray.empty ∧
      ∃ reason, let fault := Fault.unconvertible payload DataType.raw.name (some reason)
        ((running config).serve (invocation config.functionName argv)).calls =
            [.error fault debug] ∧
          finish.err = warningLine env config argv ++ fault.diagnostic debug env.palette

theorem recognizes_rawJson : Recognizes DataType.raw.read
    fun text r => WellFormed text ∧ r = ⟨String.ofList text⟩ :=
  ((recognizes_raw.map String.ofList).map RawJson.mk).congr fun text r => by simp

def echoBuiltin : Builtin :=
  ⟨"echo", .json, .raw, .raw, Builtin.echo⟩

theorem echoBuiltin_mem : echoBuiltin ∈ Builtin.all :=
  List.mem_cons_self

theorem decode_raw_iff {payload : String} {r : RawJson} :
    Decoder.standard.decode .raw payload = .ok r ↔
      ∃ text, Padded text payload.toList ∧ WellFormed text ∧ r = ⟨String.ofList text⟩ :=
  Decoder.decode_eq_ok_iff rfl recognizes_rawJson

theorem echo_of_wellFormed {payload : String} {debug : Bool} {text : List Char}
    (h : loadConfig env = .ok config) (hn : config.functionName = "echo")
    (ha : Arguments.Pass payload debug argv) (hp : Padded text payload.toList)
    (ht : WellFormed text) : Delivers env config argv (String.ofList text).toUTF8 := by
  have hd : Decoder.standard.decode .raw payload = .ok ⟨String.ofList text⟩ :=
    decode_raw_iff.mpr ⟨text, hp, ht, rfl⟩
  have hencoded : echoBuiltin.encoded ⟨String.ofList text⟩ = (String.ofList text).toUTF8 := by
    change (String.ofList (String.ofList text).toList).toUTF8 = _
    rw [String.ofList_toList]
  rw [← hencoded]
  exact delivers_of_done h echoBuiltin_mem hn ha.supplies hd rfl

theorem echo_of_not_wellFormed {payload : String} {debug : Bool} (h : loadConfig env = .ok config)
    (hn : config.functionName = "echo") (ha : Arguments.Pass payload debug argv)
    (hw : ¬ ∃ text, Padded text payload.toList ∧ WellFormed text) :
    ∃ reason, Refuses env config argv (.unconvertible payload DataType.raw.name (some reason)) := by
  refine refuses_of_no_input h echoBuiltin_mem hn ha.supplies fun r hd => ?_
  obtain ⟨text, hp, ht, -⟩ := decode_raw_iff.mp hd
  exact hw ⟨text, hp, ht⟩

theorem echoed {payload : String} {debug : Bool} (h : loadConfig env = .ok config)
    (hn : config.functionName = "echo") (ha : Arguments.Pass payload debug argv) :
    Echoed env config argv payload debug (run env argv) := by
  refine ⟨⟨fun hc => ?_, ?_⟩, fun text hp ht => ?_, fun hw => ?_⟩
  · obtain ⟨r, -, hd, -⟩ := (code_eq_zero_iff h echoBuiltin_mem hn ha.supplies).mp hc
    obtain ⟨text, hp, ht, -⟩ := decode_raw_iff.mp hd
    exact ⟨text, hp, ht⟩
  · rintro ⟨text, hp, ht⟩
    exact (echo_of_wellFormed h hn ha hp ht).code
  · obtain ⟨-, hout, herr⟩ := echo_of_wellFormed h hn ha hp ht
    obtain ⟨c, t, he, -⟩ := ht.opens
    exact ⟨(hp.strip_eq ht.stripped (by simp [he])).symm, hout, herr⟩
  · obtain ⟨reason, hcode, -, hout, hcalls, herr⟩ := echo_of_not_wellFormed h hn ha hw
    rw [debugRequested_of_supplies ha.supplies] at hcalls herr
    exact ⟨hcode, hout, reason, hcalls, herr⟩

/-- The process accepts the payloads that are JSON texts and returns each without the white space around
it. For any other payload it writes no result and tells that the payload cannot be converted. What it
has written it returns again. -/
theorem echo_json (h : loadConfig env = .ok config) (hn : config.functionName = "echo") :
    (∀ payload debug argv, Arguments.Pass payload debug argv →
      Echoed env config argv payload debug (run env argv)) ∧
    ∀ payload debug argv again debug' argv', Arguments.Pass payload debug argv →
      (run env argv).code = 0 → again.toUTF8 = (run env argv).out →
      Arguments.Pass again debug' argv' →
        (run env argv').code = 0 ∧ (run env argv').out = (run env argv).out := by
  refine ⟨fun payload debug argv ha => echoed h hn ha, ?_⟩
  intro payload debug argv again debug' argv' ha hc he ha'
  have hfirst := echoed h hn ha
  have hsecond := echoed h hn ha'
  obtain ⟨text, hp, ht⟩ := hfirst.accepts.mp hc
  obtain ⟨-, hout, -⟩ := hfirst.returns text hp ht
  have hagain : again = String.ofList text := by
    have hread := congrArg String.fromUTF8? (he.trans hout)
    rw [fromUTF8?_toUTF8, fromUTF8?_toUTF8] at hread
    exact Option.some.inj hread
  have hp' : Padded text again.toList := by
    rw [hagain, String.toList_ofList]
    exact padded_self text
  exact ⟨hsecond.accepts.mpr ⟨text, hp', ht⟩, (hsecond.returns text hp' ht).2.1.trans hout.symm⟩

/-- A list of half a surrogate pair and a number too large for a real, and a word that is cut off. -/
theorem echo_json_list :
    let env : Environment := ⟨.folder [], none, ["work"], none, some "echo".toUTF8, none, .plain⟩
    let list := ["--data".toUTF8, " [\"\\ud800\",1e999]\n".toUTF8]
    let word := ["--data".toUTF8, "nul".toUTF8]
    loadConfig env = .ok { Config.standard with functionName := "echo" } ∧
      (run env list).code = 0 ∧ (run env list).out = "[\"\\ud800\",1e999]".toUTF8 ∧
      (run env word).code = 1 ∧ (run env word).out = ByteArray.empty := by
  intro env list word
  have hname : calledName env .standard = "echo" := by
    simp only [calledName, env, Option.bind_some, fromUTF8?_toUTF8]
    rfl
  have hload : loadConfig env = .ok { Config.standard with functionName := "echo" } :=
    hname ▸ loadConfig_of_ok rfl
  have h := (echo_json hload rfl).1
  have hl := h " [\"\\ud800\",1e999]\n" false list .plain
  have hw := h "nul" false word .plain
  have hlist : DataType.raw.ofJson " [\"\\ud800\",1e999]\n" = .ok ⟨"[\"\\ud800\",1e999]"⟩ := rfl
  obtain ⟨text, hp, ht, he⟩ := recognizes_rawJson.whole_eq_ok_iff.mp hlist
  have hno : ¬ ∃ text, Padded text "nul".toList ∧ WellFormed text := by
    rintro ⟨text, hp, ht⟩
    have hr := recognizes_rawJson.whole_eq_ok_iff.mpr ⟨text, hp, ht, rfl⟩
    have hf : ∃ flaw, DataType.raw.ofJson "nul" = .error flaw := ⟨_, rfl⟩
    obtain ⟨flaw, hf⟩ := hf
    cases hr.symm.trans hf
  obtain ⟨hcode, hout, -⟩ := hw.refuses hno
  refine ⟨hload, hl.accepts.mpr ⟨_, hp, ht⟩, ?_, hcode, hout⟩
  rw [(hl.returns _ hp ht).2.1]
  exact congrArg String.toUTF8 (RawJson.mk.inj he).symm

end Command

end OneShot
