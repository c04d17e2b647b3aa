import OneShot.Codec
import OneShot.Proofs.DataType

/-! What the JSON codec has written it reads back. JSON values come back unless they are nested too
deep or begin an object with the name that stands for embedded text. -/

namespace OneShot.Codec

open Json Json.Value

theorem json_encode (t : DataType) (v : t.Val) : json.encode t v = .ok (t.toJson v).toUTF8 :=
  rfl

theorem json_decode_of_ok {t : DataType} {text : String} {v : t.Val} (h : t.ofJson text = .ok v) :
    json.decode t text = .ok v := by
  simp only [decode, json, bind_ok, h]
  rfl

theorem json_decode_of_error {t : DataType} {text : String} {flaw : Flaw}
    (h : t.ofJson text = .error flaw) : json.decode t text = .error (.serialization flaw) := by
  simp only [decode, json, bind_ok, h]

theorem json_decode_eq_ok_iff {t : DataType} {text : String} {v : t.Val} :
    json.decode t text = .ok v ↔ t.ofJson text = .ok v := by
  refine ⟨fun h => ?_, json_decode_of_ok⟩
  cases ho : t.ofJson text with
  | ok w => exact congrArg _ (Except.ok.inj ((json_decode_of_ok ho).symm.trans h))
  | error flaw => cases (json_decode_of_error ho).symm.trans h

theorem json_decode_of_written {t : DataType} {v : t.Val} (h : Written t.read (t.write v) v) :
    json.decode t (t.toJson v) = .ok v :=
  json_decode_of_ok h.whole_eq

/-- The reader makes the value again of its text, for every type whose texts are exact, and for JSON
values that are plain and nested at most 127 deep. Deeper ones are written all the same, and are
refused for their depth. -/
theorem json_decode_encode :
    (∀ (t : DataType) (v : t.Val), t.exact = true →
      ∃ text, json.encode t v = .ok text.toUTF8 ∧ json.decode t text = .ok v) ∧
    ∀ v : Value, v.Everywhere Sorted → v.Everywhere NotReal →
      ∃ text, json.encode .json v = .ok text.toUTF8 ∧
        (json.decode .json text = .ok v ↔ v.Everywhere Plain ∧ v.depth ≤ 127) ∧
        (v.Everywhere Plain → 127 < v.depth →
          ∃ flaw, json.decode .json text = .error (.serialization flaw) ∧ flaw.fault = .tooDeep) := by
  refine ⟨fun t v ht => ⟨_, json_encode t v, json_decode_of_written (t.written_of_exact ht v)⟩,
    fun v hs hr => ⟨_, json_encode .json v, ⟨fun h => ?_, fun h => ?_⟩, fun hp hd => ?_⟩⟩
  · have hw : whole readValue (String.ofList v.write) = .ok v := json_decode_eq_ok_iff.mp h
    have hp : v.Everywhere Plain := Classical.byContradiction fun hp => whole_write_ne hs hr hp hw
    refine ⟨hp, Nat.le_of_not_lt fun hd => ?_⟩
    obtain ⟨flaw, he, -⟩ := whole_write_of_depth hs hr hp hd
    cases hw.symm.trans he
  · exact json_decode_of_written (t := .json) (Value.written hs hr h.1 (Nat.lt_succ_of_le h.2))
  · obtain ⟨flaw, he, hf⟩ := whole_write_of_depth hs hr hp hd
    exact ⟨flaw, json_decode_of_error he, hf⟩

/-- An object in which the name for embedded text comes first. -/
def marked : Value :=
  .object [(embeddingName, .string "null"), ("a", .null)]

theorem everywhere_marked {p : Value → Prop} (h : p marked) (hs : p (.string "null"))
    (hn : p .null) : marked.Everywhere p := by
  refine .object h fun m hm => ?_
  rcases List.mem_cons.mp hm with rfl | hm
  · exact .string hs
  · rw [List.mem_singleton.mp hm]
    exact .null hn

theorem sorted_marked : marked.Everywhere Sorted := by
  have h : embeddingName < "a" := by decide
  exact everywhere_marked (List.pairwise_pair.mpr h) trivial trivial

/-- The reader expects nothing after the embedded text. -/
theorem json_decode_marked :
    marked.Everywhere Sorted ∧ marked.Everywhere NotReal ∧ marked.depth ≤ 127 ∧
      ∃ text flaw, json.encode .json marked = .ok text.toUTF8 ∧
        json.decode .json text = .error (.serialization flaw) ∧ flaw.fault = .trailingComma :=
  ⟨sorted_marked, everywhere_marked trivial trivial trivial, by decide, _, _,
    json_encode .json _, rfl, rfl⟩

def nested : Nat → Value
  | 0 => .null
  | n + 1 => .array [nested n]

theorem depth_nested (n : Nat) : (nested n).depth = n := by
  induction n with
  | zero => rfl
  | succ n ih => simp [nested, depth, depthItems, ih]

theorem everywhere_nested {p : Value → Prop} (hn : p .null) (ha : ∀ items, p (.array items))
    (n : Nat) : (nested n).Everywhere p := by
  induction n with
  | zero => exact .null hn
  | succ n ih =>
    refine .array (ha _) fun v hv => ?_
    rw [List.mem_singleton.mp hv]
    exact ih

theorem json_decode_encode_nested :
    (∃ text, json.encode (.int .i128) ⟨-(1 <<< 127 : Nat), by decide⟩ = .ok text.toUTF8 ∧
      json.decode (.int .i128) text = .ok ⟨-(1 <<< 127 : Nat), by decide⟩) ∧
    (∃ text, json.encode .json (nested 127) = .ok text.toUTF8 ∧
      json.decode .json text = .ok (nested 127)) ∧
    ∃ text flaw, json.encode .json (nested 128) = .ok text.toUTF8 ∧
      json.decode .json text = .error (.serialization flaw) ∧ flaw.fault = .tooDeep := by
  have hs : ∀ n, (nested n).Everywhere Sorted := everywhere_nested trivial fun _ => trivial
  have hr : ∀ n, (nested n).Everywhere NotReal := everywhere_nested trivial fun _ => trivial
  have hp : ∀ n, (nested n).Everywhere Plain := everywhere_nested trivial fun _ => trivial
  refine ⟨json_decode_encode.1 (.int .i128) _ rfl, ?_, ?_⟩
  · obtain ⟨text, he, hd, -⟩ := json_decode_encode.2 (nested 127) (hs 127) (hr 127)
    exact ⟨text, he, hd.mpr ⟨hp 127, Nat.le_of_eq (depth_nested 127)⟩⟩
  · obtain ⟨text, he, -, hd⟩ := json_decode_encode.2 (nested 128) (hs 128) (hr 128)
    obtain ⟨flaw, hf⟩ := hd (hp 128) (by rw [depth_nested]; decide)
    exact ⟨text, flaw, he, hf⟩

end OneShot.Codec
