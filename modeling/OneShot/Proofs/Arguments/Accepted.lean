import OneShot.Context
import OneShot.Proofs.Arguments.Token

/-! The arguments that are taken are those in the grammar that set the flag once at most and give one
payload at most, and this payload is a text. Progress and what is still to come are counted together:
a step moves an item from one side to the other. -/

namespace OneShot.Arguments

/-- The payloads so far, the one still to be checked among them. -/
def Progress.values (p : Progress) : List Bytes :=
  p.data.toList.map utf8 ++ p.pending.toList

/-- Progress and items to come that make up the arguments `args` together. -/
structure Completes (p : Progress) (flags : Nat) (values : List Bytes) (args : Arguments) : Prop where
  flags : p.debug.toNat + flags = args.debug.toNat
  values : p.values ++ values = args.data.toList.map utf8

variable {p : Progress} {flags : Nat} {values : List Bytes} {args : Arguments}

theorem exists_setData_iff (hp : p.pending = none) {v : Bytes} :
    (∃ q, p.setData v = .ok q ∧ Completes q flags values args) ↔
      Completes p flags (v :: values) args := by
  constructor
  · rintro ⟨q, hq, hc⟩
    obtain ⟨hd, s, rfl, rfl⟩ := setData_eq_ok_iff.mp hq
    refine ⟨hc.flags, ?_⟩
    rw [← hc.values]
    simp [Progress.values, hd, hp]
  · intro hc
    have hv := hc.values
    rw [Progress.values, hp] at hv
    cases hd : p.data with
    | some s =>
      -- Two payloads are too many for the arguments to hold.
      have hl := congrArg List.length hv
      cases ha : args.data with
      | none => simp [hd, ha] at hl
      | some t => simp [hd, ha] at hl
    | none =>
      rw [hd] at hv
      cases ha : args.data with
      | none =>
        rw [ha] at hv
        cases hv
      | some s =>
        rw [ha] at hv
        obtain ⟨rfl, rfl⟩ := List.cons.inj hv
        refine ⟨_, setData_eq_ok_iff.mpr ⟨hd, s, rfl, rfl⟩, hc.flags, ?_⟩
        simp [Progress.values, hp, ha]

theorem exists_settle_iff :
    (∃ q, p.settle = .ok q ∧ Completes q flags values args) ↔
      Completes p flags values args := by
  cases hp : p.pending with
  | none =>
    rw [settle_of_none hp]
    exact ⟨fun ⟨q, hq, hc⟩ => by cases hq; exact hc, fun hc => ⟨p, rfl, hc⟩⟩
  | some v =>
    rw [Progress.settle, hp]
    refine (exists_setData_iff rfl).trans ⟨fun hc => ⟨hc.flags, ?_⟩, fun hc => ⟨hc.flags, ?_⟩⟩
    · rw [← hc.values]
      simp [Progress.values, hp]
    · rw [← hc.values]
      simp [Progress.values, hp]

theorem exists_setDebug_iff :
    (∃ q, p.setDebug = .ok q ∧ Completes q flags values args) ↔
      Completes p (1 + flags) values args := by
  rw [← exists_settle_iff]
  constructor
  · rintro ⟨q, hq, hc⟩
    obtain ⟨r, hr, hq⟩ := Json.exists_of_bind_eq_ok hq
    split at hq
    · cases hq
    · rename_i hdebug
      cases hq
      refine ⟨r, hr, ?_, hc.values⟩
      rw [← hc.flags, eq_false_of_ne_true hdebug]
      exact Nat.zero_add _
  · rintro ⟨r, hr, hc⟩
    have hdebug : r.debug = false := by
      have hf := hc.flags
      have hle := Bool.toNat_le args.debug
      cases hd : r.debug with
      | false => rfl
      | true =>
        rw [hd, Bool.toNat_true] at hf
        omega
    refine ⟨{ r with debug := true }, ?_, ?_, hc.values⟩
    · rw [Progress.setDebug, hr]
      exact if_neg (by simp [hdebug])
    · rw [← hc.flags, hdebug]
      exact (Nat.zero_add _).symm

theorem exists_setFlag_iff {debug : Bool} :
    (∃ q, p.setFlag debug = .ok q ∧ Completes q flags values args) ↔
      Completes p (debug.toNat + flags) values args := by
  cases debug with
  | true => exact exists_setDebug_iff
  | false =>
    rw [Bool.toNat_false, Nat.zero_add]
    exact ⟨fun ⟨q, hq, hc⟩ => by cases hq; exact hc, fun hc => ⟨p, rfl, hc⟩⟩

theorem completes_pending_iff (hp : p.pending = none) {v : Bytes} :
    Completes { p with pending := some v } flags values args ↔
      Completes p flags (v :: values) args := by
  have hv : Progress.values { p with pending := some v } ++ values = p.values ++ v :: values := by
    simp [Progress.values, hp]
  exact ⟨fun hc => ⟨hc.flags, hv ▸ hc.values⟩, fun hc => ⟨hc.flags, hv ▸ hc.values⟩⟩

theorem exists_bind_iff {ε α β : Type} {x : Except ε α} {f : α → Except ε β} {post : β → Prop} :
    (∃ b, x >>= f = .ok b ∧ post b) ↔ ∃ a, x = .ok a ∧ ∃ b, f a = .ok b ∧ post b := by
  constructor
  · rintro ⟨b, h, hb⟩
    obtain ⟨a, ha, hf⟩ := Json.exists_of_bind_eq_ok h
    exact ⟨a, ha, b, hf, hb⟩
  · rintro ⟨a, rfl, hb⟩
    exact hb

theorem exists_settle_setData_iff {v : Bytes} :
    (∃ q, (p.settle >>= fun q => q.setData v) = .ok q ∧ Completes q flags values args) ↔
      Completes p flags (v :: values) args := by
  rw [exists_bind_iff, ← exists_settle_iff]
  exact exists_congr fun q => and_congr_right fun hq => exists_setData_iff (pending_of_settle hq)

theorem exists_settle_pending_iff {v : Bytes} :
    (∃ q, (p.settle >>= fun q => .ok { q with pending := some v }) = .ok q ∧
      Completes q flags values args) ↔ Completes p flags (v :: values) args := by
  rw [exists_bind_iff, ← exists_settle_iff]
  refine exists_congr fun q => and_congr_right fun hq => ?_
  rw [← completes_pending_iff (pending_of_settle hq)]
  exact ⟨fun ⟨r, hr, hc⟩ => by cases hr; exact hc, fun hc => ⟨_, rfl, hc⟩⟩

/-! One item at the head of the arguments. -/

/-- The rest of the arguments, after one of them made a step. -/
def parseAfter (rest : List Bytes) : Step → Except ArgumentFault Arguments
  | .next p => parseFrom p rest
  | .wantValue p =>
    match rest with
    | [] => .error .missingValue
    | value :: rest => parseFrom { p with pending := some value } rest

theorem parseFrom_cons {argument : Bytes} (hne : argument ≠ [0x2D, 0x2D]) (p : Progress)
    (rest : List Bytes) :
    parseFrom p (argument :: rest) = option p argument >>= parseAfter rest := by
  rw [parseFrom.eq_def]
  simp only [hne, if_false]
  cases option p argument with
  | error fault => rfl
  | ok step =>
    cases step with
    | next q => rfl
    | wantValue q => cases rest <;> rfl

theorem parseFrom_of_reads {argument : Bytes} {t : Token} (h : Reads argument t) (p : Progress)
    (rest : List Bytes) :
    parseFrom p (argument :: rest) = t.apply p >>= parseAfter rest := by
  rw [parseFrom_cons h.ne_dashes, option_of_reads h]

/-- An item takes the progress on by its flag and its payload, and leaves the other arguments. -/
theorem exists_progress {item : List Bytes} {debug : Bool} {value : Option Bytes}
    (h : Item item debug value) (p : Progress) :
    ∃ next : Except ArgumentFault Progress,
      (∀ rest, parseFrom p (item ++ rest) = next >>= fun q => parseFrom q rest) ∧
      ∀ {flags values args}, (∃ q, next = .ok q ∧ Completes q flags values args) ↔
        Completes p (debug.toNat + flags) (value.toList ++ values) args := by
  cases h with
  | @flag argument h =>
    refine ⟨p.setDebug, fun rest => ?_, exists_setDebug_iff⟩
    refine (parseFrom_of_reads h p rest).trans ?_
    simp only [Token.apply, bind_assoc]
    rfl
  | @attached argument v debug h =>
    refine ⟨p.setFlag debug >>= fun q => q.settle >>= fun q => q.setData v, fun rest => ?_, ?_⟩
    · refine (parseFrom_of_reads h p rest).trans ?_
      simp only [Token.apply, Arguments.attached, bind_assoc]
      rfl
    · intro flags values args
      rw [exists_bind_iff]
      exact (exists_congr fun q => and_congr_right fun _ => exists_settle_setData_iff).trans
        exists_setFlag_iff
  | @followed argument debug h v =>
    refine ⟨p.setFlag debug >>= fun q => q.settle >>= fun q => .ok { q with pending := some v },
      fun rest => ?_, ?_⟩
    · refine (parseFrom_of_reads h p (v :: rest)).trans ?_
      simp only [Token.apply, bind_assoc]
      rfl
    · intro flags values args
      rw [exists_bind_iff]
      exact (exists_congr fun q => and_congr_right fun _ => exists_settle_pending_iff).trans
        exists_setFlag_iff

theorem exists_item {p : Progress} {argument : Bytes} {rest : List Bytes} {args : Arguments}
    (hne : argument ≠ [0x2D, 0x2D]) (h : parseFrom p (argument :: rest) = .ok args) :
    ∃ item debug value others, Item item debug value ∧ argument :: rest = item ++ others := by
  rw [parseFrom_cons hne] at h
  obtain ⟨step, hs, h⟩ := Json.exists_of_bind_eq_ok h
  obtain ⟨t, ht⟩ := exists_reads hs
  cases t with
  | flag => exact ⟨_, _, _, rest, .flag ht, rfl⟩
  | attached debug v => exact ⟨_, _, _, rest, .attached ht, rfl⟩
  | wanting debug =>
    rw [option_of_reads ht] at hs
    obtain ⟨q, -, hs⟩ := Json.exists_of_bind_eq_ok hs
    obtain ⟨r, -, hs⟩ := Json.exists_of_bind_eq_ok hs
    cases hs
    cases rest with
    | nil => cases h
    | cons v rest => exact ⟨_, _, _, rest, .followed ht v, rfl⟩

/-! All arguments. -/

theorem utf8_injective {s t : String} (h : utf8 s = utf8 t) : s = t := by
  have hs := fromUTF8?_eq_some_iff.mpr h
  rw [fromUTF8?_eq_some_iff.mpr rfl] at hs
  exact (Option.some.inj hs).symm

theorem map_utf8_injective {a b : Option String} (h : a.toList.map utf8 = b.toList.map utf8) :
    a = b := by
  cases a with
  | none =>
    cases b with
    | none => rfl
    | some t => cases h
  | some s =>
    cases b with
    | none => cases h
    | some t => rw [utf8_injective (List.cons.inj h).1]

theorem toNat_injective : ∀ {a b : Bool}, a.toNat = b.toNat → a = b := by
  decide

theorem completes_end_iff : Completes p 0 [] args ↔
    ∃ q, p.settle = .ok q ∧ args = ⟨q.debug, q.data⟩ := by
  rw [← exists_settle_iff]
  refine exists_congr fun q => and_congr_right fun hq => ?_
  have hv : q.values ++ [] = q.data.toList.map utf8 := by
    simp [Progress.values, pending_of_settle hq]
  constructor
  · intro hc
    have hflag : q.debug = args.debug := toNat_injective hc.flags
    have hdata := map_utf8_injective (hv.symm.trans hc.values)
    rw [hflag, hdata]
  · rintro rfl
    exact ⟨rfl, hv⟩

theorem parseFrom_nil {p q : Progress} (h : p.settle = .ok q) :
    parseFrom p [] = .ok ⟨q.debug, q.data⟩ := by
  rw [parseFrom, h]
  rfl

theorem parseFrom_dashes (p : Progress) : parseFrom p [utf8 "--"] = parseFrom p [] := by
  rw [utf8_dashes, parseFrom.eq_def]
  rfl

theorem parseFrom_of_grammar {argv : List Bytes} {flags : Nat} {values : List Bytes}
    {args : Arguments} (h : Grammar argv flags values) {p : Progress}
    (hc : Completes p flags values args) : parseFrom p argv = .ok args := by
  induction h generalizing p with
  | nil =>
    obtain ⟨q, hq, rfl⟩ := completes_end_iff.mp hc
    exact parseFrom_nil hq
  | dashes =>
    obtain ⟨q, hq, rfl⟩ := completes_end_iff.mp hc
    exact (parseFrom_dashes p).trans (parseFrom_nil hq)
  | item hi h ih =>
    obtain ⟨next, hp, hn⟩ := exists_progress hi p
    obtain ⟨q, rfl, hq⟩ := hn.mpr hc
    rw [hp]
    exact ih hq

theorem exists_grammar {p : Progress} {argv : List Bytes} {args : Arguments}
    (h : parseFrom p argv = .ok args) :
    ∃ flags values, Grammar argv flags values ∧ Completes p flags values args := by
  -- An item takes one argument or two, so the induction is on the number of arguments.
  induction hl : argv.length using Nat.strongRecOn generalizing p argv with
  | _ n ih =>
    cases argv with
    | nil =>
      obtain ⟨q, hq, ha⟩ := Json.exists_of_bind_eq_ok h
      cases ha
      exact ⟨0, [], .nil, completes_end_iff.mpr ⟨q, hq, rfl⟩⟩
    | cons argument rest =>
      by_cases hne : argument = [0x2D, 0x2D]
      · subst hne
        cases rest with
        | nil =>
          rw [← utf8_dashes, parseFrom_dashes] at h
          obtain ⟨q, hq, ha⟩ := Json.exists_of_bind_eq_ok h
          cases ha
          rw [← utf8_dashes]
          exact ⟨0, [], .dashes, completes_end_iff.mpr ⟨q, hq, rfl⟩⟩
        | cons extra rest =>
          rw [parseFrom.eq_def] at h
          cases h
      · obtain ⟨item, debug, value, others, hi, ha⟩ := exists_item hne h
        obtain ⟨next, hp, hn⟩ := exists_progress hi p
        have hlt : others.length < n := by
          have hpos := List.length_pos_iff.mpr hi.ne_nil
          rw [← hl, ha, List.length_append]
          omega
        rw [ha, hp] at h
        obtain ⟨q, hq, h⟩ := Json.exists_of_bind_eq_ok h
        obtain ⟨flags, values, hg, hc⟩ := ih _ hlt h rfl
        rw [ha]
        exact ⟨_, _, .item hi hg, hn.mp ⟨q, hq, hc⟩⟩

theorem parseFrom_eq_ok_iff {p : Progress} {argv : List Bytes} {args : Arguments} :
    parseFrom p argv = .ok args ↔
      ∃ flags values, Grammar argv flags values ∧ Completes p flags values args :=
  ⟨exists_grammar, fun ⟨_, _, hg, hc⟩ => parseFrom_of_grammar hg hc⟩

/-! The arguments of a caller. -/

def written (argv : List ByteArray) : List Bytes :=
  argv.map fun argument => argument.data.toList

theorem completes_start_iff : Completes ⟨false, none, none⟩ flags values args ↔
    flags = args.debug.toNat ∧ values = args.data.toList.map utf8 := by
  constructor
  · intro hc
    exact ⟨(Nat.zero_add flags).symm.trans hc.flags, hc.values⟩
  · rintro ⟨hf, hv⟩
    exact ⟨(Nat.zero_add flags).trans hf, hv⟩

theorem parse_eq_ok_iff {argv : List ByteArray} : parse argv = .ok args ↔
    Grammar (written argv) args.debug.toNat (args.data.toList.map utf8) := by
  refine parseFrom_eq_ok_iff.trans ?_
  simp only [completes_start_iff]
  exact ⟨fun ⟨_, _, hg, hf, hv⟩ => hf ▸ hv ▸ hg, fun hg => ⟨_, _, hg, rfl, rfl⟩⟩

theorem exists_args_iff {flags : Nat} {values : List Bytes} :
    (∃ args : Arguments, flags = args.debug.toNat ∧ values = args.data.toList.map utf8) ↔
      flags ≤ 1 ∧ values.length ≤ 1 ∧ ∀ v ∈ values, ∃ s, utf8 s = v := by
  constructor
  · rintro ⟨args, rfl, rfl⟩
    refine ⟨Bool.toNat_le _, ?_, ?_⟩
    · cases args.data <;> simp
    · simp
  · rintro ⟨hf, hl, hv⟩
    have hb : flags = (decide (flags = 1)).toNat := by
      cases flags with
      | zero => rfl
      | succ n =>
        obtain rfl : n = 0 := by omega
        rfl
    match values, hl, hv with
    | [], _, _ => exact ⟨⟨_, none⟩, hb, rfl⟩
    | [v], _, hv =>
      obtain ⟨s, rfl⟩ := hv v List.mem_cons_self
      exact ⟨⟨_, some s⟩, hb, rfl⟩

/-! The flag in front of other arguments. It takes none of them, and lets none through. -/

theorem parse_debug_cons (argv : List ByteArray) :
    parse ("--debug".toUTF8 :: argv) = parseFrom ⟨true, none, none⟩ (written argv) :=
  (parseFrom_of_reads .flag ⟨false, none, none⟩ (written argv)).trans rfl

theorem completes_flag_iff {data : Option String} {pending : Option Bytes} :
    Completes ⟨true, data, pending⟩ flags values args ↔
      args.debug = true ∧ Completes ⟨false, data, pending⟩ flags values { args with debug := false } := by
  constructor
  · intro hc
    have hf : 1 + flags = args.debug.toNat := hc.flags
    have hle := Bool.toNat_le args.debug
    have hzero : flags = 0 := by omega
    have hone : args.debug = true := Bool.toNat_eq_one.mp (by omega)
    subst hzero
    exact ⟨hone, rfl, hc.values⟩
  · rintro ⟨hd, hc⟩
    have hf : 0 + flags = 0 := hc.flags
    refine ⟨?_, hc.values⟩
    change 1 + flags = args.debug.toNat
    rw [hd, Bool.toNat_true]
    omega

theorem parse_debug_eq_ok_iff {argv : List ByteArray} :
    parse ("--debug".toUTF8 :: argv) = .ok args ↔
      args.debug = true ∧ parse argv = .ok { args with debug := false } := by
  rw [parse_debug_cons, parseFrom_eq_ok_iff]
  simp only [completes_flag_iff]
  constructor
  · rintro ⟨flags, values, hg, hd, hc⟩
    exact ⟨hd, parseFrom_eq_ok_iff.mpr ⟨flags, values, hg, hc⟩⟩
  · rintro ⟨hd, h⟩
    obtain ⟨flags, values, hg, hc⟩ := exists_grammar h
    exact ⟨flags, values, hg, hd, hc⟩

/-- The arguments with one payload, in each of the ways to give it that work for any text. -/
inductive Gives (payload : String) : List ByteArray → Prop
  | long : Gives payload ["--data".toUTF8, payload.toUTF8]
  | short : Gives payload ["-x".toUTF8, payload.toUTF8]
  | joined : Gives payload [("--data=" ++ payload).toUTF8]

theorem parse_of_gives {payload : String} {argv : List ByteArray} (h : Gives payload argv) :
    parse argv = .ok ⟨false, some payload⟩ := by
  rw [parse_eq_ok_iff]
  cases h with
  | long => exact .item (.followed .option (utf8 payload)) .nil
  | short => exact .item (.followed (.shortOption false) (utf8 payload)) .nil
  | joined =>
    have hj : utf8 ("--data=" ++ payload) = utf8 "--data=" ++ utf8 payload := by
      simp [utf8]
    change Grammar [utf8 ("--data=" ++ payload)] _ _
    rw [hj]
    exact .item (.attached (.value (utf8 payload))) .nil

/-- The arguments are taken just when they are in the grammar, with the flag once at most and one payload
at most, that is a text; what they say is what is read then. What is refused is a fault of the
arguments. A payload may be any text, one that looks like an option too. -/
theorem parse_grammar :
    (∀ argv,
      ((∃ args, parse argv = .ok args) ↔ ∃ flags values, Grammar (written argv) flags values ∧
        flags ≤ 1 ∧ values.length ≤ 1 ∧ ∀ v ∈ values, ∃ s, utf8 s = v) ∧
      (∀ flags values, Grammar (written argv) flags values → ∀ args, parse argv = .ok args →
        args.debug.toNat = flags ∧ args.data.toList.map utf8 = values) ∧
      ∀ decoder : Decoder,
        (∃ args, parse argv = .ok args ∧
          Context.parse argv decoder = .ok (Context.ofArguments args decoder)) ∨
        ∃ fault, parse argv = .error fault ∧
          Context.parse argv decoder = .error (.arguments fault)) ∧
    ∀ payload argv, Gives payload argv → parse argv = .ok ⟨false, some payload⟩ := by
  refine ⟨fun argv => ⟨?_, ?_, ?_⟩, fun payload argv h => parse_of_gives h⟩
  · simp only [parse_eq_ok_iff, ← exists_args_iff]
    constructor
    · rintro ⟨args, hg⟩
      exact ⟨_, _, hg, args, rfl, rfl⟩
    · rintro ⟨_, _, hg, args, rfl, rfl⟩
      exact ⟨args, hg⟩
  · intro flags values hg args hargs
    exact hg.unique (parse_eq_ok_iff.mp hargs)
  · intro decoder
    rw [Context.parse]
    cases parse argv with
    | ok args => exact .inl ⟨args, rfl, rfl⟩
    | error fault => exact .inr ⟨fault, rfl, rfl⟩

/-- Two dashes as a payload, behind a cluster that sets the flag and behind the option alone. -/
theorem parse_grammar_dashes :
    let cluster := ["-dx".toUTF8, "--".toUTF8]
    let option := ["-x".toUTF8, "--".toUTF8]
    Grammar (written cluster) 1 [utf8 "--"] ∧ parse cluster = .ok ⟨true, some "--"⟩ ∧
      Gives "--" option ∧ parse option = .ok ⟨false, some "--"⟩ := by
  intro cluster option
  have hg : Grammar (written cluster) 1 [utf8 "--"] :=
    .item (.followed (.shortOption true) (utf8 "--")) .nil
  obtain ⟨haccepted, hread, -⟩ := parse_grammar.1 cluster
  obtain ⟨⟨debug, data⟩, h⟩ := haccepted.mpr ⟨1, [utf8 "--"], hg, by decide, by decide, by simp⟩
  obtain ⟨hd, hv⟩ := hread 1 [utf8 "--"] hg _ h
  have hdebug : debug = true := toNat_injective hd
  have hdata : data = some "--" := map_utf8_injective hv
  rw [hdebug, hdata] at h
  exact ⟨hg, h, .short, parse_grammar.2 "--" option .short⟩

end OneShot.Arguments
