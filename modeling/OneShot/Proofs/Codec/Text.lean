import OneShot.Proofs.Codec.RoundTrip

/-! The codec for plain text. Every payload is a string to it, and a result is written as it stands
in JSON, or as its characters if that is a string literal. -/

namespace OneShot

open Json

namespace Json

theorem skim_literal (s : List Char) : skim ('"' :: s) = skimString s :=
  rfl

theorem readRaw_of_literal {body : List Char} (h : Literal body) (r : List Char) :
    readRaw ('"' :: (body ++ '"' :: r)) = .ok ('"' :: (body ++ ['"']), r) := by
  have ht : ('"' :: (body ++ '"' :: r)).take (('"' :: (body ++ '"' :: r)).length - r.length) =
      '"' :: (body ++ ['"']) := by
    rw [show '"' :: (body ++ '"' :: r) = ('"' :: (body ++ ['"'])) ++ r by simp]
    exact List.take_left' (by simp only [List.length_append, List.length_cons]; omega)
  simp only [readRaw, skipSpace_of_opensValue (c := '"') rfl, skim_literal,
    skimString_of_literal h, bind_ok, ht]
  rfl

theorem literal_of_readRaw {s cs r : List Char} (h : readRaw ('"' :: s) = .ok (cs, r)) :
    ∃ body, Literal body ∧ cs = '"' :: (body ++ ['"']) := by
  have hs := h
  simp only [readRaw, skipSpace_of_opensValue (c := '"') rfl, skim_literal] at hs
  obtain ⟨rest, hs, -⟩ := exists_of_bind_eq_ok hs
  obtain ⟨body, rfl, hb⟩ := literal_of_skimString hs
  rw [readRaw_of_literal hb rest] at h
  cases h
  exact ⟨body, hb, rfl⟩

end Json

namespace Codec

/-- Whether a value is one of its type. The text of raw JSON is that of a value. -/
def Proper : (t : DataType) → t.Val → Prop
  | .raw, r => DataType.raw.ofJson r.text = .ok r
  | _, _ => True

theorem text_fromJson_of_spells {body cs : List Char} (h : Spells body cs) :
    text.fromJson (String.ofList ('"' :: (body ++ ['"']))) = .ok (String.ofList cs).toUTF8 := by
  have hr : DataType.string.ofJson (String.ofList ('"' :: (body ++ ['"']))) =
      .ok (String.ofList cs) := by
    refine whole_of_ok ?_
    simp only [DataType.read, readString, readStringAs, skipSpace_of_opensValue (c := '"') rfl,
      scanString_of_spells h]
    rfl
  simp only [text, String.toList_ofList, hr]

theorem text_fromJson_quote (s : String) :
    text.fromJson (String.ofList (quote s)) = .ok s.toUTF8 := by
  rw [quote_eq, text_fromJson_of_spells (spells_flatMap_escape s.toList), String.ofList_toList]

theorem text_toJson (p : String) : text.toJson p = .ok (String.ofList (quote p)) :=
  rfl

theorem text_encode_of_write {t : DataType} {v : t.Val} {s : String} (h : t.write v = quote s) :
    text.encode t v = .ok s.toUTF8 := by
  rw [encode, DataType.toJson, h, text_fromJson_quote]

theorem text_fromJson_of_unpaired {body : List Char} (h : Literal body) (hp : paired body = false) :
    ∃ flaw, text.fromJson (String.ofList ('"' :: (body ++ ['"']))) = .error (.serialization flaw) ∧
      (flaw.fault = .lonePair ∨ flaw.fault = .halfPair) := by
  rcases h.judged [] with ⟨hp', -⟩ | ⟨-, stop, hs, hf⟩
  · exact absurd (hp.symm.trans hp') Bool.false_ne_true
  · have hr : DataType.string.ofJson (String.ofList ('"' :: (body ++ ['"']))) =
        .error (stop.locate (String.ofList ('"' :: (body ++ ['"'])))) := by
      refine whole_of_error ?_
      simp only [DataType.read, readString, readStringAs, skipSpace_of_opensValue (c := '"') rfl, hs]
      rfl
    refine ⟨stop.locate (String.ofList ('"' :: (body ++ ['"']))), ?_, hf⟩
    simp only [text, String.toList_ofList, hr]

theorem text_fromJson_of_head {s : List Char} (h : s.head? ≠ some '"') :
    text.fromJson (String.ofList s) = .ok (String.ofList s).toUTF8 := by
  simp only [text, String.toList_ofList]
  split
  · exact absurd rfl h
  · rfl

/-- A value of any type but raw JSON is written as what quotes a text, or does not begin with a
quote. -/
theorem write_eq_quote_or {t : DataType} (ht : t ≠ .raw) (v : t.Val) :
    (∃ s, t.write v = quote s) ∨ (t.write v).head? ≠ some '"' := by
  have hvalue : ∀ w : Value, (∃ s, w.write = quote s) ∨ w.write.head? ≠ some '"' := by
    intro w
    by_cases hw : ∃ s, w = .string s
    · obtain ⟨s, rfl⟩ := hw
      exact .inl ⟨s, rfl⟩
    · exact .inr (Value.head?_write_ne_quote (not_exists.mp hw))
  have hint : ∀ n, (decimalInt n).head? ≠ some '"' := by
    intro n
    obtain ⟨c, s, hc, hs⟩ := opens_decimalInt n
    rw [hc]
    rintro ⟨⟩
    cases hs
  cases t with
  | string => exact .inl ⟨v, rfl⟩
  | char => exact .inl ⟨String.singleton v, rfl⟩
  | tag => exact .inl ⟨v.text, rfl⟩
  | mediaType => exact .inl ⟨v.display, rfl⟩
  | address => exact .inl ⟨v.render, rfl⟩
  | json | named => exact hvalue v
  | bool => cases v <;> exact .inr nofun
  | int k => exact .inr (hint v.val)
  | option =>
    cases v with
    | none => exact .inr nofun
    | some n => exact .inr (hint n.val)
  | f32 => exact .inr fun h => Encoded.quote_not_mem_json _ _ _ (List.mem_of_head? h)
  | f64 => exact .inr fun h => Encoded.quote_not_mem_json _ _ _ (List.mem_of_head? h)
  | unit | pair | ints | floats | strings | map | point | ledger | exitCodes | config | registration
  | shifted | greetRequest | greeting => exact .inr nofun
  | raw => exact absurd rfl ht

/-- How the codec encodes a value. The characters of a string literal stand for themselves, and only
raw text has surrogates that stand for nothing. -/
inductive TextEncoding (t : DataType) (v : t.Val) : Except Fault ByteArray → Prop
  | characters {body cs : List Char} (hw : t.write v = '"' :: (body ++ ['"']))
      (hs : Spells body cs) : TextEncoding t v (.ok (String.ofList cs).toUTF8)
  | asJson (hw : (t.write v).head? ≠ some '"') : TextEncoding t v (json.encode t v)
  | unpaired {body : List Char} {flaw : Flaw} (ht : t = .raw)
      (hw : t.write v = '"' :: (body ++ ['"'])) (hp : paired body = false)
      (hf : flaw.fault = .lonePair ∨ flaw.fault = .halfPair) :
      TextEncoding t v (.error (.serialization flaw))

theorem literal_of_proper {r : RawJson} (h : Proper .raw r) (hq : r.text.toList.head? = some '"') :
    ∃ body, Literal body ∧ r.text.toList = '"' :: (body ++ ['"']) := by
  obtain ⟨s, hs⟩ := List.head?_eq_some_iff.mp hq
  obtain ⟨rest, hr⟩ := exists_of_whole h
  obtain ⟨⟨text, _⟩, hr, he⟩ := exists_of_map_eq_ok hr
  obtain ⟨⟨cs, _⟩, hr, he'⟩ := exists_of_map_eq_ok hr
  cases he
  cases he'
  rw [hs] at hr
  obtain ⟨body, hb, rfl⟩ := literal_of_readRaw hr
  exact ⟨body, hb, String.toList_ofList⟩

theorem textEncoding {t : DataType} {v : t.Val} (h : Proper t v) :
    TextEncoding t v (text.encode t v) := by
  by_cases hq : (t.write v).head? = some '"'
  · by_cases ht : t = .raw
    · subst ht
      obtain ⟨body, hb, hw⟩ := literal_of_proper h hq
      have hw' : DataType.raw.write v = '"' :: (body ++ ['"']) := hw
      rw [encode, DataType.toJson, hw']
      rcases hb.judged [] with ⟨-, cs, hs⟩ | ⟨hp, -⟩
      · rw [text_fromJson_of_spells hs]
        exact .characters hw hs
      · obtain ⟨flaw, he, hf⟩ := text_fromJson_of_unpaired hb hp
        rw [he]
        exact .unpaired rfl hw hp hf
    · obtain ⟨s, hw⟩ := (write_eq_quote_or ht v).resolve_right (not_not_intro hq)
      have hc := TextEncoding.characters hw (spells_flatMap_escape s.toList)
      rw [String.ofList_toList] at hc
      rw [text_encode_of_write hw]
      exact hc
  · rw [encode, DataType.toJson, text_fromJson_of_head hq]
    exact .asJson hq

theorem text_encode_eq_error_iff {t : DataType} {v : t.Val} (h : Proper t v) :
    (∃ fault, text.encode t v = .error fault) ↔
      t = .raw ∧ ∃ body, t.write v = '"' :: (body ++ ['"']) ∧ paired body = false := by
  constructor
  · rintro ⟨fault, he⟩
    have hx := textEncoding h
    rw [he] at hx
    generalize hr : (Except.error fault : Except Fault ByteArray) = result at hx
    cases hx with
    | characters | asJson => cases hr
    | unpaired ht hw hp => exact ⟨ht, _, hw, hp⟩
  · rintro ⟨-, body, hw, hp⟩
    have hx := textEncoding h
    generalize text.encode t v = result at hx
    cases hx with
    | characters hw' hs =>
      -- A literal that spells a text has no surrogate without its partner.
      have he := List.append_cancel_right (List.cons.inj (hw.symm.trans hw')).2
      rw [he, hs.paired] at hp
      cases hp
    | asJson hq => exact absurd (by rw [hw]; rfl) hq
    | unpaired => exact ⟨_, rfl⟩

theorem text_decode_of_ok {t : DataType} {p : String} {v : t.Val}
    (h : t.ofJson (String.ofList (quote p)) = .ok v) : text.decode t p = .ok v := by
  simp only [decode, text, bind_ok, h]
  rfl

theorem text_decode_of_error {t : DataType} {p : String} {stop : Stop}
    (h : t.read (quote p) = .error stop) :
    ∃ flaw, text.decode t p = .error (.serialization flaw) := by
  have ho : t.ofJson (String.ofList (quote p)) = .error (stop.locate (String.ofList (quote p))) :=
    whole_of_error h
  refine ⟨stop.locate (String.ofList (quote p)), ?_⟩
  simp only [decode, text, bind_ok, ho]

/-- The types that take any payload as it is. -/
def verbatim : List DataType :=
  [.string, .tag, .json, .raw]

/-- The types that take no payload, for they have no values that are strings in JSON. -/
def wordless : List DataType :=
  [.ints, .strings, .map, .option, .pair, .unit, .point, .ledger]

theorem text_decode_json (p : String) : text.decode .json p = .ok (.string p) :=
  text_decode_of_ok (t := .json) (Value.written (v := .string p) (.string trivial) (.string trivial)
    (.string trivial) (Nat.zero_lt_succ _)).whole_eq

theorem raw_ofJson_of_literal {body : List Char} (h : Literal body) :
    DataType.raw.ofJson (String.ofList ('"' :: (body ++ ['"']))) =
      .ok ⟨String.ofList ('"' :: (body ++ ['"']))⟩ := by
  refine whole_of_ok ?_
  simp only [DataType.read, readRawText, readRaw_of_literal h []]
  rfl

/-- Such a payload is quoted for the reader, and what is read is unquoted again. -/
theorem text_decode_encode {t : DataType} (h : t ∈ verbatim) (p : String) :
    ∃ v, text.decode t p = .ok v ∧ text.encode t v = .ok p.toUTF8 := by
  simp only [verbatim, List.mem_cons, List.not_mem_nil, or_false] at h
  rcases h with rfl | rfl | rfl | rfl
  · exact ⟨p, text_decode_of_ok (t := .string) (written_quote p).whole_eq, text_encode_of_write rfl⟩
  · exact ⟨⟨p⟩, text_decode_of_ok (t := .tag) (Tag.written ⟨p⟩).whole_eq, text_encode_of_write rfl⟩
  · exact ⟨.string p, text_decode_json p, text_encode_of_write rfl⟩
  · exact ⟨⟨String.ofList (quote p)⟩, text_decode_of_ok (t := .raw)
        (raw_ofJson_of_literal (spells_flatMap_escape p.toList).literal),
      text_encode_of_write String.toList_ofList⟩

theorem read_of_wordless {t : DataType} (h : t ∈ wordless) (s : List Char) :
    ∃ stop, t.read ('"' :: s) = .error stop := by
  simp only [wordless, List.mem_cons, List.not_mem_nil, or_false] at h
  rcases h with rfl | rfl | rfl | rfl | rfl | rfl | rfl | rfl <;> exact ⟨_, rfl⟩

theorem text_decode_of_wordless {t : DataType} (h : t ∈ wordless) (p : String) :
    ∃ flaw, text.decode t p = .error (.serialization flaw) := by
  obtain ⟨stop, hr⟩ := read_of_wordless h (p.toList.flatMap escape ++ ['"'])
  exact text_decode_of_error hr

theorem text_decode_encode_iff (v : Value) :
    ∃ p, text.encode .json v = .ok p.toUTF8 ∧
      (text.decode .json p = .ok v ↔ ∃ s, v = .string s) := by
  by_cases h : ∃ s, v = .string s
  · obtain ⟨s, rfl⟩ := h
    exact ⟨s, text_encode_of_write rfl, iff_of_true (text_decode_json s) ⟨s, rfl⟩⟩
  · have he := text_fromJson_of_head (Value.head?_write_ne_quote (not_exists.mp h))
    refine ⟨DataType.json.toJson v, he, iff_of_false (fun hd => ?_) h⟩
    -- Every payload is decoded as a string.
    rw [text_decode_json] at hd
    exact h ⟨_, (Except.ok.inj hd).symm⟩

theorem text_laws :
    (∀ p, text.toJson p >>= text.fromJson = .ok p.toUTF8) ∧
    (∀ t ∈ verbatim, ∀ p, ∃ v, text.decode t p = .ok v ∧ text.encode t v = .ok p.toUTF8) ∧
    (∀ p, text.decode .json p = .ok (.string p)) ∧
    (∀ (t : DataType) (v : t.Val), Proper t v → TextEncoding t v (text.encode t v) ∧
      ((∃ fault, text.encode t v = .error fault) ↔
        t = .raw ∧ ∃ body, t.write v = '"' :: (body ++ ['"']) ∧ paired body = false)) ∧
    (∀ v : Value, ∃ p, text.encode .json v = .ok p.toUTF8 ∧
      (text.decode .json p = .ok v ↔ ∃ s, v = .string s)) ∧
    ∀ t ∈ wordless, ∀ p, ∃ flaw, text.decode t p = .error (.serialization flaw) :=
  ⟨fun p => by rw [text_toJson, bind_ok, text_fromJson_quote],
    fun _ h p => text_decode_encode h p, text_decode_json,
    fun _ _ h => ⟨textEncoding h, text_encode_eq_error_iff h⟩, text_decode_encode_iff,
    fun _ h p => text_decode_of_wordless h p⟩

/-- Raw text with half a pair, a tag in any text, and no list in any. -/
theorem text_laws_half_pair :
    let body := ['\\', 'u', 'd', '8', '0', '0']
    let r : RawJson := ⟨String.ofList ('"' :: (body ++ ['"']))⟩
    Proper .raw r ∧ (∃ fault, text.encode .raw r = .error fault) ∧
      (∃ v, text.decode .tag "a \"b\"" = .ok v ∧ text.encode .tag v = .ok "a \"b\"".toUTF8) ∧
      ∃ flaw, text.decode .ints "[1]" = .error (.serialization flaw) := by
  intro body r
  have h : Proper .raw r := raw_ofJson_of_literal (.unit rfl .nil)
  obtain ⟨-, hv, -, he, -, hw⟩ := text_laws
  exact ⟨h, (he .raw r h).2.mpr ⟨rfl, body, String.toList_ofList, rfl⟩, hv .tag (by decide) _,
    hw .ints (by decide) _⟩

end Codec

end OneShot
