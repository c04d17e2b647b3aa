import OneShot.Proofs.Dictionary
import OneShot.Proofs.Invocation.Dispatch
import OneShot.Proofs.Text.ByteOrder
import Mathlib.Data.List.Dedup
import Mathlib.Data.List.Induction

/-! The codec of a result: that which was registered last for the media type that was registered last
under the name of the function. A registry of codecs holds one for each essence, in the order of their
last registrations. -/

namespace OneShot

/-- The last item of a list with a property. -/
inductive LastWith {α : Type} (p : α → Prop) : List α → α → Prop
  | intro (before : List α) {a : α} {after : List α} (h : p a) (later : ∀ b ∈ after, ¬ p b) :
      LastWith p (before ++ a :: after) a

theorem LastWith.mem {α : Type} {p : α → Prop} {l : List α} {a : α} (h : LastWith p l a) : a ∈ l := by
  cases h
  simp

theorem LastWith.concat {α : Type} {p : α → Prop} (before : List α) {a : α} (h : p a) :
    LastWith p (before ++ [a]) a :=
  .intro before h nofun

section Last

variable {α : Type} {p : α → Bool} {l : List α}

theorem getLast?_filter_eq_some_iff {a : α} :
    (l.filter p).getLast? = some a ↔ LastWith (fun a => p a = true) l a := by
  rw [List.getLast?_filter, List.find?_eq_some_iff_append]
  constructor
  · rintro ⟨hp, after, before, he, hn⟩
    have hl : l = before.reverse ++ a :: after.reverse := by
      rw [← List.reverse_reverse l, he]
      simp
    rw [hl]
    exact .intro _ hp fun b hb => by simpa using hn b (List.mem_reverse.mp hb)
  · rintro ⟨before, hp, later⟩
    refine ⟨hp, _, before.reverse, by simp; rfl, fun b hb => ?_⟩
    simpa using later b (List.mem_reverse.mp hb)

theorem getLast?_filter_eq_none_iff :
    (l.filter p).getLast? = none ↔ ∀ a ∈ l, ¬ p a = true := by
  rw [List.getLast?_eq_none_iff, List.filter_eq_nil_iff]

theorem dedup_concat [DecidableEq α] (l : List α) (a : α) :
    (l ++ [a]).dedup = l.dedup.filter (fun b => b ≠ a) ++ [a] := by
  induction l with
  | nil => rfl
  | cons b l ih =>
    rw [List.cons_append, List.dedup_cons, List.dedup_cons, ih]
    by_cases hb : b ∈ l
    · rw [if_pos (List.mem_append_left _ hb), if_pos hb]
    · by_cases ha : b = a
      · rw [if_pos (by simp [ha]), if_neg hb, List.filter_cons_of_neg (by simpa using ha)]
      · rw [if_neg (by simp [hb, ha]), if_neg hb, List.filter_cons_of_pos (by simpa using ha),
          List.cons_append]

end Last

namespace CodecRegistry

/-- A registry after codecs have been registered, those it began with included. -/
inductive Registered : CodecRegistry → List Codec → Prop
  | empty (codecs : List Codec) : Registered (.registerAll .empty codecs) codecs
  | standard (codecs : List Codec) :
      Registered (.registerAll .standard codecs) (.json :: .text :: codecs)

theorem Registered.eq_registerAll {r : CodecRegistry} {codecs : List Codec}
    (h : Registered r codecs) : r = CodecRegistry.empty.registerAll codecs := by
  cases h <;> rfl

def essences (r : CodecRegistry) : List String :=
  r.mediaTypes.map MediaType.essence

theorem essences_register (r : CodecRegistry) (c : Codec) :
    (r.register c).essences = r.essences.filter (fun e => e ≠ c.media.essence) ++ [c.media.essence] := by
  simp only [essences, mediaTypes, register, List.map_append, List.map_map, List.filter_map,
    List.map_cons, List.map_nil]
  congr 3
  funext d
  rw [Bool.eq_iff_iff]
  simp [MediaType.agrees]

theorem essences_registerAll (codecs : List Codec) :
    (CodecRegistry.empty.registerAll codecs).essences =
      (codecs.map fun c => c.media.essence).dedup := by
  induction codecs using List.reverseRecOn with
  | nil => rfl
  | append_singleton codecs c ih =>
    rw [registerAll, List.foldl_concat, ← registerAll, essences_register, ih, List.map_append,
      List.map_singleton, dedup_concat]

/-- The codec that was registered last under the essence of a media type. -/
def LastUnder (media : MediaType) (codecs : List Codec) (codec : Codec) : Prop :=
  LastWith (fun c => c.media.essence = media.essence) codecs codec

def Unserved (media : MediaType) (codecs : List Codec) : Prop :=
  ∀ codec ∈ codecs, codec.media.essence ≠ media.essence

/-- What a registry holds after codecs have been registered. -/
structure Holds (r : CodecRegistry) (codecs : List Codec) : Prop where
  distinct : r.codecs.Pairwise fun c d => c.media.essence ≠ d.media.essence
  /-- Each essence once, at the place of its last occurrence. -/
  essences : r.mediaTypes.map MediaType.essence = (codecs.map fun c => c.media.essence).dedup
  listed : ∀ media ∈ r.mediaTypes, ∃ codec, LastUnder media codecs codec ∧ codec.media = media
  found : ∀ media codec, r.find? media = some codec ↔ LastUnder media codecs codec
  missing : ∀ media, r.find? media = none ↔ Unserved media codecs

theorem eq_of_essence_eq {r : CodecRegistry} (h : r.essences.Nodup) {c d : Codec} (hc : c ∈ r.codecs)
    (hd : d ∈ r.codecs) (he : c.media.essence = d.media.essence) : c = d := by
  rw [essences, mediaTypes, List.map_map] at h
  exact List.inj_on_of_nodup_map h hc hd he

theorem find?_media {r : CodecRegistry} (h : r.essences.Nodup) {c : Codec} (hc : c ∈ r.codecs) :
    r.find? c.media = some c := by
  have hs : (r.find? c.media).isSome = true := by
    rw [find?, List.find?_isSome]
    exact ⟨c, hc, by simp [MediaType.agrees]⟩
  obtain ⟨d, hd⟩ := Option.isSome_iff_exists.mp hs
  rw [find?] at hd ⊢
  have he := List.find?_some hd
  rw [hd, eq_of_essence_eq h (List.mem_of_find?_eq_some hd) hc (beq_iff_eq.mp he)]

theorem Registered.holds {r : CodecRegistry} {codecs : List Codec} (h : Registered r codecs) :
    Holds r codecs := by
  obtain rfl := h.eq_registerAll
  have hfind : ∀ media, (CodecRegistry.empty.registerAll codecs).find? media =
      last? media codecs := by
    intro media
    rw [find?_registerAll]
    exact Option.or_none
  have hlast : ∀ media codec, (CodecRegistry.empty.registerAll codecs).find? media = some codec ↔
      LastUnder media codecs codec := by
    intro media codec
    rw [hfind, last?, getLast?_filter_eq_some_iff]
    simp only [LastUnder, MediaType.agrees, beq_iff_eq]
  have hnodup : (CodecRegistry.empty.registerAll codecs).essences.Nodup := by
    rw [essences_registerAll]
    exact List.nodup_dedup _
  refine ⟨?distinct, essences_registerAll codecs, ?listed, hlast, ?missing⟩
  case distinct =>
    rw [essences, mediaTypes, List.map_map] at hnodup
    exact List.pairwise_map.mp hnodup
  case listed =>
    intro media hm
    obtain ⟨c, hc, rfl⟩ := List.mem_map.mp hm
    exact ⟨c, (hlast c.media c).mp (find?_media hnodup hc), rfl⟩
  case missing =>
    intro media
    rw [hfind, last?, getLast?_filter_eq_none_iff]
    simp only [Unserved, MediaType.agrees, beq_iff_eq, ne_eq]

end CodecRegistry

namespace FunctionRegistry

/-- What a registry of functions says after functions have been registered. -/
structure Names (r : FunctionRegistry) (registrations : List Registration) : Prop where
  ordered : r.names.Pairwise fun m n => Arguments.utf8 m < Arguments.utf8 n
  listed : ∀ name, name ∈ r.names ↔ ∃ registration ∈ registrations, registration.name = name
  registered : ∀ name registration, LastWith (fun r => r.name = name) registrations registration →
    r.mediaTypeFor name = registration.media
  unregistered : ∀ name, (∀ registration ∈ registrations, registration.name ≠ name) →
    r.mediaTypeFor name = .json

theorem mem_names_iff {r : FunctionRegistry} {name : String} :
    name ∈ r.names ↔ (r.find? name).isSome = true := by
  simp only [names, Dictionary.keys, find?, Option.isSome_iff_exists,
    Dictionary.find?_eq_some_iff, List.mem_map, Prod.exists, exists_and_right, exists_eq_right]

theorem last?_eq_some_iff {name : String} {registrations : List Registration}
    {registration : Registration} :
    last? name registrations = some registration ↔
      LastWith (fun r => r.name = name) registrations registration := by
  rw [last?, getLast?_filter_eq_some_iff]
  simp only [beq_iff_eq]

theorem last?_eq_none_iff {name : String} {registrations : List Registration} :
    last? name registrations = none ↔
      ∀ registration ∈ registrations, registration.name ≠ name := by
  rw [last?, getLast?_filter_eq_none_iff]
  simp only [beq_iff_eq, ne_eq]

theorem names_registerAll (registrations : List Registration) :
    Names (FunctionRegistry.empty.registerAll registrations) registrations := by
  have hfind : ∀ name, (FunctionRegistry.empty.registerAll registrations).find? name =
      last? name registrations := by
    intro name
    rw [find?_registerAll]
    exact Option.or_none
  refine ⟨?ordered, ?listed, ?registered, ?unregistered⟩
  case ordered =>
    exact (Dictionary.sorted _).imp lt_iff_utf8_lt.mp
  case listed =>
    intro name
    rw [mem_names_iff, hfind, last?, Option.isSome_iff_ne_none, ne_eq, getLast?_filter_eq_none_iff]
    simp
  case registered =>
    intro name registration h
    rw [mediaTypeFor, hfind, last?_eq_some_iff.mpr h]
  case unregistered =>
    intro name h
    rw [mediaTypeFor, hfind, last?_eq_none_iff.mpr h]

end FunctionRegistry

namespace Codec

/-- A codec that does not look for another one, and so never says that a codec is missing. -/
def IsLeaf (codec : Codec) : Prop :=
  ∀ text media, codec.fromJson text ≠ .error (.codecNotFound media)

theorem json_isLeaf : IsLeaf .json := nofun

theorem text_isLeaf : IsLeaf .text := by
  intro text media h
  simp only [Codec.text] at h
  split at h
  · split at h <;> cases h
  · cases h

theorem backwards_isLeaf (media : MediaType) : IsLeaf (.backwards media) := nofun

theorem broken_isLeaf (media : MediaType) : IsLeaf (.broken media) := nofun

end Codec

namespace Container

open CodecRegistry (LastUnder Unserved)

/-- How the results of a type without a converter are encoded under a name of the given media type. -/
structure EncodesBy (c : Container) (name : String) (t : DataType) (media : MediaType)
    (codecs : List Codec) : Prop where
  coded : ∀ codec, LastUnder media codecs codec → ∀ v, c.encodeValue name t v = codec.encode t v
  uncoded : Unserved media codecs → ∀ v, c.encodeValue name t v = .error (.codecNotFound media)
  fault_iff : ∀ v missing, c.encodeValue name t v = .error (.codecNotFound missing) ↔
    (Unserved media codecs ∧ missing = media) ∨
      ∃ codec, LastUnder media codecs codec ∧ codec.encode t v = .error (.codecNotFound missing)
  fault_iff_of_isLeaf : (∀ codec ∈ codecs, codec.IsLeaf) → ∀ v missing,
    c.encodeValue name t v = .error (.codecNotFound missing) ↔
      Unserved media codecs ∧ missing = media

variable {c : Container} {table : ConversionTable} {r : CodecRegistry} {functions : FunctionRegistry}
  {t : DataType}

theorem encodeValue_of_no_converter (ht : c.find? .conversions = some table)
    (hk : c.find? .codecs = some r) (hf : c.find? .functions = some functions)
    (hn : table.converter? t = none) (name : String) (v : t.Val) :
    c.encodeValue name t v =
      match r.find? (functions.mediaTypeFor name) with
      | some codec => codec.encode t v
      | none => .error (.codecNotFound (functions.mediaTypeFor name)) := by
  rw [encodeValue_eq_route ht hk hf, Decoder.route, hn]
  dsimp only
  cases r.find? (functions.mediaTypeFor name) <;> rfl

theorem encodesBy_of_holds {codecs : List Codec} (h : r.Holds codecs)
    (ht : c.find? .conversions = some table) (hk : c.find? .codecs = some r)
    (hf : c.find? .functions = some functions) (hn : table.converter? t = none) (name : String) :
    c.EncodesBy name t (functions.mediaTypeFor name) codecs := by
  have he := encodeValue_of_no_converter ht hk hf hn name
  generalize functions.mediaTypeFor name = media at he
  have hcoded : ∀ codec, LastUnder media codecs codec →
      ∀ v, c.encodeValue name t v = codec.encode t v := by
    intro codec hl v
    rw [he, (h.found media codec).mpr hl]
  have huncoded : Unserved media codecs →
      ∀ v, c.encodeValue name t v = .error (.codecNotFound media) := by
    intro hu v
    rw [he, (h.missing media).mpr hu]
  have hiff : ∀ v missing, c.encodeValue name t v = .error (.codecNotFound missing) ↔
      (Unserved media codecs ∧ missing = media) ∨ ∃ codec, LastUnder media codecs codec ∧
        codec.encode t v = .error (.codecNotFound missing) := by
    intro v missing
    constructor
    · intro hv
      cases hr : r.find? media with
      | none =>
        have hu := (h.missing media).mp hr
        rw [huncoded hu] at hv
        cases hv
        exact .inl ⟨hu, rfl⟩
      | some codec =>
        have hl := (h.found media codec).mp hr
        rw [hcoded codec hl] at hv
        exact .inr ⟨codec, hl, hv⟩
    · rintro (⟨hu, rfl⟩ | ⟨codec, hl, hv⟩)
      · exact huncoded hu v
      · rw [hcoded codec hl, hv]
  refine ⟨hcoded, huncoded, hiff, fun hleaf v missing => ?_⟩
  rw [hiff, or_iff_left]
  rintro ⟨codec, hl, hv⟩
  exact hleaf codec hl.mem _ _ hv

/-- Whatever codecs and functions have been registered, a result without a converter is encoded by the
last codec for the last media type of its name, and its encoding fails for want of a codec if there is
none. -/
theorem last_registered_encodes {codecs : List Codec} (h : CodecRegistry.Registered r codecs)
    (registrations : List Registration) :
    let functions := FunctionRegistry.empty.registerAll registrations
    r.Holds codecs ∧ functions.Names registrations ∧
      ∀ (c : Container) (table : ConversionTable) (t : DataType),
        c.find? .conversions = some table → c.find? .codecs = some r →
        c.find? .functions = some functions → table.converter? t = none →
        ∀ name, c.EncodesBy name t (functions.mediaTypeFor name) codecs := by
  intro functions
  refine ⟨h.holds, FunctionRegistry.names_registerAll registrations, ?_⟩
  intro c table t ht hk hf hn name
  exact encodesBy_of_holds h.holds ht hk hf hn name

/-- A second codec for XML in place of the first one, for a function that was plain text before. -/
theorem last_registered_encodes_versioned :
    let xml : MediaType := ⟨"application/xml", .empty⟩
    let versioned : MediaType := ⟨"application/xml", Dictionary.empty.insert "v" "2"⟩
    let codecs : List Codec := [.json, .text, .broken xml, .backwards versioned]
    let r := CodecRegistry.standard.registerAll [.broken xml, .backwards versioned]
    let registrations : List Registration := [⟨"report", .text⟩, ⟨"audit", xml⟩, ⟨"report", xml⟩]
    let functions := FunctionRegistry.empty.registerAll registrations
    let c : Container := (Container.standard.register .codecs r).register .functions functions
    CodecRegistry.Registered r codecs ∧
      (c.find? .conversions = some .standard ∧ c.find? .codecs = some r ∧
        c.find? .functions = some functions ∧ ConversionTable.standard.converter? .ints = none) ∧
      r.mediaTypes = [.json, .text, versioned] ∧ functions.names = ["audit", "report"] ∧
      r.Holds codecs ∧ functions.Names registrations ∧ c.EncodesBy "report" .ints xml codecs ∧
      (∀ v, c.encodeValue "report" .ints v = (Codec.backwards versioned).encode .ints v) ∧
      ∀ v missing, c.encodeValue "report" .ints v ≠ .error (.codecNotFound missing) := by
  intro xml versioned codecs r registrations functions c
  have hr : CodecRegistry.Registered r codecs := .standard [.broken xml, .backwards versioned]
  obtain ⟨hh, hn, he⟩ := last_registered_encodes hr registrations
  have hlast : LastWith (fun r => r.name = "report") registrations ⟨"report", xml⟩ :=
    .concat (registrations.take 2) rfl
  have hm : functions.mediaTypeFor "report" = xml := hn.registered "report" _ hlast
  have hx : c.EncodesBy "report" .ints xml codecs :=
    hm ▸ he c .standard .ints rfl rfl rfl rfl "report"
  have hl : CodecRegistry.LastUnder xml codecs (.backwards versioned) := by
    exact LastWith.concat (codecs.take 3) rfl
  have hleaf : ∀ codec ∈ codecs, codec.IsLeaf := by
    simp only [codecs, List.forall_mem_cons]
    exact ⟨Codec.json_isLeaf, Codec.text_isLeaf, Codec.broken_isLeaf xml,
      Codec.backwards_isLeaf versioned, List.forall_mem_nil _⟩
  have hserved : ∀ v missing, c.encodeValue "report" .ints v ≠ .error (.codecNotFound missing) := by
    intro v missing hv
    exact ((hx.fault_iff_of_isLeaf hleaf v missing).mp hv).1 _ hl.mem rfl
  exact ⟨hr, ⟨rfl, rfl, rfl, rfl⟩, rfl, by decide +kernel, hh, hn, hx, hx.coded _ hl, hserved⟩

end Container

end OneShot
