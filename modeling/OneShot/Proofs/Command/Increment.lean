import OneShot.Proofs.Command.Payload
import OneShot.Proofs.Conversion

/-! The process that raises a number by one. It is exact on all numbers of 64 bits but the greatest, which
it refuses, and so is a row of calls of which each has what the one before it wrote. -/

namespace OneShot

namespace Builtin

theorem hi_i64 : IntKind.i64.hi = 2 ^ 63 - 1 := by
  decide

theorem increment_of_lt {n : IntKind.i64.Num} (h : n.val < 2 ^ 63 - 1) :
    ∃ m : IntKind.i64.Num, m.val = n.val + 1 ∧ increment n = .done m := by
  have hhi := hi_i64
  have hlo := n.property.1
  have hm : IntKind.i64.lo ≤ n.val + 1 ∧ n.val + 1 ≤ IntKind.i64.hi := by omega
  refine ⟨⟨n.val + 1, hm⟩, rfl, ?_⟩
  rw [increment, IntKind.ofInt?, dif_pos hm]

/-- The fault of the greatest number. -/
def overflow : Fault :=
  .function (.plain "9223372036854775807 + 1 overflows a 64-bit integer")

theorem increment_of_greatest {n : IntKind.i64.Num} (h : n.val = 2 ^ 63 - 1) :
    increment n = .failed overflow := by
  have hhi := hi_i64
  have hd : decimalInt (2 ^ 63 - 1) = "9223372036854775807".toList := by decide
  rw [increment, IntKind.ofInt?, dif_neg (by omega)]
  dsimp only
  rw [IntKind.render, h, hd, String.ofList_toList]
  rfl

end Builtin

namespace Command

open Arguments

variable {env : Environment} {config : Config} {argv : List ByteArray} {payload : String}
  {debug : Bool}

/-- The process ends with success and writes a number by its canonical text. -/
def Prints (env : Environment) (config : Config) (argv : List ByteArray) (n : Int) : Prop :=
  ∃ text : String, IntKind.Canonical text.toList ∧ IntKind.i64.Spells text.toList n ∧
    Delivers env config argv text.toUTF8

/-- What the process does with a payload that is to be raised by one. -/
structure Raises (env : Environment) (config : Config) (argv : List ByteArray) (payload : String) :
    Prop where
  next : ∀ n, IntKind.i64.InRange n → IntKind.i64.Spells payload.toList n → n < 2 ^ 63 - 1 →
    Prints env config argv (n + 1)
  greatest : IntKind.i64.Spells payload.toList (2 ^ 63 - 1) →
    Refuses env config argv Builtin.overflow
  other : (¬ ∃ n, IntKind.i64.InRange n ∧ IntKind.i64.Spells payload.toList n) →
    Refuses env config argv (.unconvertible payload "i64" (some (.invalid "i64")))

/-- Calls of the process of which the first has the payload, and every other one what the one before it
wrote, if this is a text. -/
inductive Fed (env : Environment) : String → List (List ByteArray) → Prop
  | nil {payload : String} : Fed env payload []
  | cons {payload : String} {debug : Bool} {argv : List ByteArray} {calls : List (List ByteArray)}
      (ha : Supplies payload debug argv)
      (hc : ∀ text : String, text.toUTF8 = (run env argv).out → Fed env text calls) :
      Fed env payload (argv :: calls)

theorem exists_fed (env : Environment) (payload : String) (k : Nat) :
    ∃ calls, Fed env payload calls ∧ calls.length = k := by
  induction k generalizing payload with
  | zero => exact ⟨[], .nil, rfl⟩
  | succ k ih =>
    have ha : Supplies payload false ["--data".toUTF8, payload.toUTF8] := Pass.plain.supplies
    by_cases ht : ∃ text : String, text.toUTF8 = (run env ["--data".toUTF8, payload.toUTF8]).out
    · obtain ⟨text, ht⟩ := ht
      obtain ⟨calls, hc, hk⟩ := ih text
      refine ⟨_, .cons ha fun text' ht' => ?_, congrArg (· + 1) hk⟩
      rw [String.toByteArray_inj.mp (ht'.trans ht.symm)]
      exact hc
    · obtain ⟨calls, -, hk⟩ := ih payload
      exact ⟨_, .cons ha fun text ht' => absurd ⟨text, ht'⟩ ht, congrArg (· + 1) hk⟩

def incrementBuiltin : Builtin :=
  ⟨"increment", .json, .int .i64, .int .i64, Builtin.increment⟩

theorem incrementBuiltin_mem : incrementBuiltin ∈ Builtin.all :=
  List.mem_cons_of_mem _ List.mem_cons_self

theorem decode_i64 (payload : String) :
    Decoder.standard.decode (.int .i64) payload =
      match IntKind.i64.parse? payload with
      | some n => .ok n
      | none => .error (.unconvertible payload "i64" (some (.invalid "i64"))) := by
  have hc : ConversionTable.standard.converter? (.int .i64) = some (.int .i64) := rfl
  change ConversionTable.standard.convert (.int .i64) payload = _
  rw [ConversionTable.convert_int hc]
  cases IntKind.i64.parse? payload <;> rfl

theorem decode_of_spells {n : IntKind.i64.Num} (h : IntKind.i64.Spells payload.toList n.val) :
    Decoder.standard.decode (.int .i64) payload = .ok n := by
  rw [decode_i64, IntKind.parse?_eq_some_iff.mpr h]

theorem raises (h : loadConfig env = .ok config) (hn : config.functionName = "increment")
    (ha : Supplies payload debug argv) : Raises env config argv payload := by
  refine ⟨fun n hr hs hlt => ?next, fun hs => ?greatest, fun hno => ?other⟩
  case next =>
    have hi : Decoder.standard.decode (.int .i64) payload = .ok ⟨n, IntKind.inRange_iff.mp hr⟩ :=
      decode_of_spells hs
    obtain ⟨m, hm, hdone⟩ := Builtin.increment_of_lt (n := ⟨n, IntKind.inRange_iff.mp hr⟩) hlt
    have hspells := IntKind.parse?_eq_some_iff.mp (IntKind.parse?_render m)
    rw [hm] at hspells
    exact ⟨IntKind.i64.render m, IntKind.canonical_render m, hspells,
      delivers_of_done h incrementBuiltin_mem hn ha hi hdone⟩
  case greatest =>
    have hr : IntKind.i64.InRange (2 ^ 63 - 1) := IntKind.inRange_iff.mpr (by decide)
    have hi : Decoder.standard.decode (.int .i64) payload =
        .ok ⟨2 ^ 63 - 1, IntKind.inRange_iff.mp hr⟩ := decode_of_spells hs
    have hfailed := Builtin.increment_of_greatest (n := ⟨2 ^ 63 - 1, IntKind.inRange_iff.mp hr⟩) rfl
    exact refuses_of_failed h incrementBuiltin_mem hn ha hi hfailed
  case other =>
    refine refuses_of_undecodable h incrementBuiltin_mem hn ha ?_
    change Decoder.standard.decode (.int .i64) payload = _
    rw [decode_i64, IntKind.parse?_eq_none_iff.mpr hno]
    rfl

/-- What a row of calls writes, and where it ends. -/
theorem counts (h : loadConfig env = .ok config) (hn : config.functionName = "increment")
    {calls : List (List ByteArray)} (hf : Fed env payload calls) {n : Int}
    (hr : IntKind.i64.InRange n) (hs : IntKind.i64.Spells payload.toList n) {k : Nat}
    (hk : calls[k]? = some argv) :
    (n + k + 1 < 2 ^ 63 → Prints env config argv (n + k + 1)) ∧
      (n + k + 1 = 2 ^ 63 → Refuses env config argv Builtin.overflow) := by
  induction hf generalizing n k with
  | nil => cases hk
  | @cons payload debug first calls ha hc ih =>
    have hfirst := raises h hn ha
    cases k with
    | zero =>
      cases hk
      refine ⟨fun hlt => ?_, fun he => hfirst.greatest ?_⟩
      · have hp := hfirst.next n hr hs (by omega)
        simpa using hp
      · have hn : n = 2 ^ 63 - 1 := by omega
        exact hn ▸ hs
    | succ k =>
      -- Unless the first call ends the row, the rest is one from the next number.
      by_cases hlt : n < 2 ^ 63 - 1
      · obtain ⟨text, -, hspells, hd⟩ := hfirst.next n hr hs hlt
        have hlow : IntKind.i64.lo ≤ n := (IntKind.inRange_iff.mp hr).1
        have hhi := Builtin.hi_i64
        have hr' : IntKind.i64.InRange (n + 1) := IntKind.inRange_iff.mpr ⟨by omega, by omega⟩
        have hrest := ih text hd.out.symm hr' hspells hk
        have he : n + 1 + (k : Int) + 1 = n + ((k + 1 : Nat) : Int) + 1 := by push_cast; omega
        rw [he] at hrest
        exact hrest
      · constructor <;> intro hb <;> omega

/-- The process raises every number of 64 bits but the greatest by one, refuses this one for its function,
and takes no other payload for a number. Calls that go on from what the last one wrote count up to the
greatest number, and stop behind it. -/
theorem increment_exact (h : loadConfig env = .ok config) (hn : config.functionName = "increment") :
    (∀ payload debug argv, Supplies payload debug argv → Raises env config argv payload) ∧
    (∀ payload k, ∃ calls, Fed env payload calls ∧ calls.length = k) ∧
    ∀ payload calls, Fed env payload calls →
      ∀ n, IntKind.i64.InRange n → IntKind.i64.Spells payload.toList n →
        ∀ (k : Nat) argv, calls[k]? = some argv →
          (n + k + 1 < 2 ^ 63 → Prints env config argv (n + k + 1)) ∧
            (n + k + 1 = 2 ^ 63 → Refuses env config argv Builtin.overflow) :=
  ⟨fun _ _ _ ha => raises h hn ha, exists_fed env,
    fun _ _ hf _ hr hs _ _ hk => counts h hn hf hr hs hk⟩

/-- A row of two calls that reaches the greatest number, and a number with a fraction. -/
theorem increment_exact_greatest :
    let env : Environment :=
      ⟨.folder [], none, ["work"], none, some "increment".toUTF8, none, .plain⟩
    let config : Config := { Config.standard with functionName := "increment" }
    let first := ["--data".toUTF8, "+9223372036854775806".toUTF8]
    let second := ["-dx".toUTF8, "9223372036854775807".toUTF8]
    let fraction := ["--data".toUTF8, "1.0".toUTF8]
    loadConfig env = .ok config ∧ IntKind.i64.InRange 9223372036854775806 ∧
      IntKind.i64.Spells "+9223372036854775806".toList 9223372036854775806 ∧
      Fed env "+9223372036854775806" [first, second] ∧
      Delivers env config first "9223372036854775807".toUTF8 ∧
      Refuses env config second Builtin.overflow ∧
      Refuses env config fraction (.unconvertible "1.0" "i64" (some (.invalid "i64"))) := by
  intro env config first second fraction
  have hload : loadConfig env = .ok config := loadConfig_of_function rfl rfl rfl rfl
  obtain ⟨hone, -, hrow⟩ := increment_exact hload rfl
  have hr : IntKind.i64.InRange 9223372036854775806 := IntKind.inRange_iff.mpr (by decide)
  have hparse : IntKind.i64.parse? "+9223372036854775806" =
      some ⟨9223372036854775806, by decide⟩ := by decide
  have hs : IntKind.i64.Spells "+9223372036854775806".toList 9223372036854775806 :=
    IntKind.parse?_eq_some_iff.mp hparse
  have ha : Supplies "+9223372036854775806" false first := Pass.plain.supplies
  have ha' : Supplies "9223372036854775807" true second :=
    .item (.followed (.shortOption true) (utf8 "9223372036854775807")) .nil
  have he : (9223372036854775806 : Int) + 1 = 9223372036854775807 := by decide
  have hfirst : Raises env config first "+9223372036854775806" := hone _ _ _ ha
  have hlt : (9223372036854775806 : Int) < 2 ^ 63 - 1 := by decide
  obtain ⟨text, hc, ht, hd⟩ := hfirst.next _ hr hs hlt
  rw [he] at ht
  have htext : text = "9223372036854775807" := by
    have hdecimal : decimalInt 9223372036854775807 = "9223372036854775807".toList := by decide
    have hlist : text.toList = decimalInt 9223372036854775807 := ht.eq_decimalInt_iff.mpr hc
    exact String.toList_inj.mp (hlist.trans hdecimal)
  subst htext
  have hf : Fed env "+9223372036854775806" [first, second] := by
    refine .cons ha fun text htext => ?_
    rw [String.toByteArray_inj.mp (htext.trans hd.out)]
    exact .cons ha' fun _ _ => .nil
  have hno : ¬ ∃ n, IntKind.i64.InRange n ∧ IntKind.i64.Spells "1.0".toList n :=
    IntKind.parse?_eq_none_iff.mp (by decide)
  have hp : Supplies "1.0" false fraction := Pass.plain.supplies
  exact ⟨hload, hr, hs, hf, hd, (hrow _ _ hf _ hr hs 1 second rfl).2 (by decide),
    (hone _ _ _ hp).other hno⟩

end Command

end OneShot
