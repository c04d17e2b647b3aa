import OneShot.Proofs.DataType
import OneShot.Proofs.Text

/-! A media type read again from its displayed form. The quotes around a value are not displayed, so
white space within them is lost; whatever else a media type can hold comes back. -/

namespace OneShot

namespace MediaType

/-- A parameter as it is read: a name in lower case without white space around it, and a value without
quotes around it. -/
structure TidyParam (e : String × String) : Prop where
  name : Stripped isBlank e.1.toList
  lower : e.1.toList.map Char.toLower = e.1.toList
  unbroken : ';' ∉ e.1.toList ∧ '=' ∉ e.1.toList
  value : Stripped (fun c => c == '"') e.2.toList
  unbrokenValue : ';' ∉ e.2.toList

/-- A media type as it is read. -/
structure Tidy (m : MediaType) : Prop where
  essence : isEssence m.essence.toList = true
  stripped : Stripped isBlank m.essence.toList
  lower : m.essence.toList.map Char.toLower = m.essence.toList
  unbroken : ';' ∉ m.essence.toList
  params : ∀ e ∈ m.params.entries, TidyParam e

/-- No value begins or ends with white space. -/
def Unpadded (m : MediaType) : Prop :=
  ∀ e ∈ m.params.entries, Stripped isBlank e.2.toList

/-- The value that is read from a text between an equals sign and a semicolon. -/
def valueOf (s : List Char) : String :=
  String.ofList (strip (fun c => c == '"') (strip isBlank s))

/-- A media type whose values are read once more. -/
def reread (m : MediaType) : MediaType :=
  ⟨m.essence, ⟨m.params.entries.map fun e => (e.1, valueOf e.2.toList), by
    rw [List.map_map]
    exact m.params.sorted⟩⟩

theorem tidyParam_of_cut {segment name value : List Char} (hs : ';' ∉ segment)
    (h : cutFirst '=' (strip isBlank segment) = some (name, value)) :
    TidyParam (String.ofList ((strip isBlank name).map Char.toLower), valueOf value) := by
  obtain ⟨he, hn⟩ := eq_append_of_cutFirst h
  have hmem : ∀ {c}, c ∈ name ++ '=' :: value → c ∈ segment := fun hc =>
    mem_of_mem_strip (he ▸ hc)
  refine ⟨?name, ?lower, ⟨?semicolon, ?equals⟩, ?value, ?unbrokenValue⟩
  case name => simpa using (stripped_strip isBlank name).map_toLower
  case lower =>
    rw [String.toList_ofList]
    exact map_toLower_idem (strip isBlank name)
  case semicolon =>
    rw [String.toList_ofList]
    refine not_mem_map_toLower (by decide) fun hc => hs (hmem ?_)
    exact List.mem_append_left _ (mem_of_mem_strip hc)
  case equals =>
    rw [String.toList_ofList]
    exact not_mem_map_toLower (by decide) fun hc => hn (mem_of_mem_strip hc)
  case value => simpa [valueOf] using stripped_strip (fun c => c == '"') (strip isBlank value)
  case unbrokenValue =>
    rw [valueOf, String.toList_ofList]
    refine fun hc => hs (hmem (List.mem_append_right _ (List.mem_cons_of_mem _ ?_)))
    exact mem_of_mem_strip (mem_of_mem_strip hc)

theorem tidy_of_addParam {params params' : Dictionary String} {segment : List Char}
    (hs : ';' ∉ segment) (ht : ∀ e ∈ params.entries, TidyParam e)
    (h : addParam params segment = .ok params') : ∀ e ∈ params'.entries, TidyParam e := by
  rw [addParam] at h
  split at h
  · cases h
    exact ht
  · split at h
    · cases h
    · rename_i name value hc
      cases h
      intro e he
      rcases mem_insertSorted he with rfl | he
      · exact tidyParam_of_cut hs hc
      · exact ht e he

theorem tidy_of_addParams {params params' : Dictionary String} {segments : List (List Char)}
    (hs : ∀ segment ∈ segments, ';' ∉ segment) (ht : ∀ e ∈ params.entries, TidyParam e)
    (h : addParams params segments = .ok params') : ∀ e ∈ params'.entries, TidyParam e := by
  induction segments generalizing params with
  | nil =>
    cases h
    exact ht
  | cons segment segments ih =>
    rw [addParams] at h
    split at h
    · rename_i next hn
      have hi := tidy_of_addParam (hs segment List.mem_cons_self) ht hn
      exact ih (fun s hm => hs s (List.mem_cons_of_mem _ hm)) hi h
    · cases h

theorem tidy_of_parse {s : String} {m : MediaType} (h : parse s = .ok m) : Tidy m := by
  have hcut : ∀ w ∈ cutAt (fun c => c == ';') s.toList, ';' ∉ w := fun w hw hc =>
    absurd (eq_false_of_mem_cutAt hw ';' hc) (by decide)
  rw [parse] at h
  split at h
  · cases h
  · rename_i first rest hp
    rw [hp] at hcut
    dsimp only at h
    split at h
    · rename_i he
      obtain ⟨params, hm, rfl⟩ := Json.exists_of_map_eq_ok h
      have hrest := tidy_of_addParams (fun w hw => hcut w (List.mem_cons_of_mem _ hw))
        (fun _ he => absurd he List.not_mem_nil) hm
      refine ⟨?_, ?_, ?_, ?_, hrest⟩
      · rwa [String.toList_ofList]
      · simpa using (stripped_strip isBlank first).map_toLower
      · rw [String.toList_ofList]
        exact map_toLower_idem (strip isBlank first)
      · rw [String.toList_ofList]
        exact not_mem_map_toLower (by decide) fun hc =>
          hcut first List.mem_cons_self (mem_of_mem_strip hc)
    · cases h

/-! The displayed form. -/

theorem toList_display (m : MediaType) :
    m.display.toList = m.essence.toList ++
      (m.params.entries.map fun e => e.1.toList ++ '=' :: e.2.toList).flatMap fun w => ';' :: w := by
  rw [display]
  generalize m.essence = s
  induction m.params.entries generalizing s with
  | nil => simp
  | cons e entries ih => simp [ih]

/-- A parameter is read from its displayed form, its value once more. -/
theorem addParam_of_tidy {e : String × String} (h : TidyParam e) (params : Dictionary String) :
    addParam params (e.1.toList ++ '=' :: e.2.toList) =
      .ok (params.insert e.1 (valueOf e.2.toList)) := by
  obtain ⟨t, ht, hv⟩ := exists_strip_append (c := '=') h.name (by decide) e.2.toList
  have hn : strip isBlank e.1.toList = e.1.toList := strip_eq_self_iff.mpr h.name
  rw [addParam, ht, if_neg (by simp), cutFirst_append h.unbroken.2]
  simp only [hn, h.lower, hv, valueOf, String.ofList_toList]

theorem addParams_of_tidy {entries : List (String × String)} (h : ∀ e ∈ entries, TidyParam e)
    (params : Dictionary String) :
    addParams params (entries.map fun e => e.1.toList ++ '=' :: e.2.toList) =
      .ok (entries.foldl (fun d e => d.insert e.1 (valueOf e.2.toList)) params) := by
  induction entries generalizing params with
  | nil => rfl
  | cons e entries ih =>
    have hi := ih fun f hf => h f (List.mem_cons_of_mem _ hf)
    rw [List.map_cons, addParams, addParam_of_tidy (h e List.mem_cons_self), List.foldl_cons]
    exact hi _

theorem ne_of_not_mem {d : Char} {s : List Char} (h : d ∉ s) : ∀ c ∈ s, (c == d) = false := by
  rintro c hc
  exact beq_false_of_ne fun he => h (he ▸ hc)

theorem parse_display {m : MediaType} (h : Tidy m) : parse m.display = .ok m.reread := by
  have hcut : cutAt (fun c => c == ';') m.display.toList =
      m.essence.toList :: m.params.entries.map fun e => e.1.toList ++ '=' :: e.2.toList := by
    rw [toList_display]
    refine cutAt_append_flatMap rfl (ne_of_not_mem h.unbroken) fun w hw => ne_of_not_mem ?_
    obtain ⟨e, he, rfl⟩ := List.mem_map.mp hw
    have ht := h.params e he
    simp [ht.unbroken.1, ht.unbrokenValue]
  have hparams : m.params.entries.foldl (fun d e => d.insert e.1 (valueOf e.2.toList))
      Dictionary.empty = m.reread.params := by
    have hf := Dictionary.foldl_insert_entries m.reread.params
    rwa [reread, List.foldl_map] at hf
  have he : strip isBlank m.essence.toList = m.essence.toList := strip_eq_self_iff.mpr h.stripped
  rw [parse, hcut]
  simp only [he, h.lower, h.essence, if_true, addParams_of_tidy h.params, hparams,
    String.ofList_toList]
  rfl

theorem valueOf_eq_self_iff {v : String} (h : Stripped (fun c => c == '"') v.toList) :
    valueOf v.toList = v ↔ Stripped isBlank v.toList := by
  rw [← strip_eq_self_iff]
  constructor
  · intro he
    have hl := congrArg String.toList he
    rw [valueOf, String.toList_ofList] at hl
    have h₁ := (strip_sublist (fun c => c == '"') (strip isBlank v.toList)).length_le
    rw [hl] at h₁
    exact (strip_sublist isBlank v.toList).eq_of_length_le h₁
  · intro he
    rw [valueOf, he, strip_eq_self_iff.mpr h, String.ofList_toList]

theorem reread_eq_self_iff {m : MediaType} (h : Tidy m) : m.reread = m ↔ m.Unpadded := by
  have hm : m.reread = m ↔
      m.params.entries.map (fun e => (e.1, valueOf e.2.toList)) = m.params.entries.map id := by
    obtain ⟨essence, entries, sorted⟩ := m
    simp [reread]
  rw [hm, List.map_inj_left]
  refine forall₂_congr fun e he => ?_
  rw [← valueOf_eq_self_iff (h.params e he).value, Prod.ext_iff]
  simp

theorem written {m n : MediaType} (h : parse m.display = .ok n) :
    Json.Written readJson m.writeJson n where
  opens := Json.opens_quote _
  oneLine := Json.newline_not_mem_quote _
  read_append r _ := by
    simp only [readJson, Json.readString, writeJson, Json.readStringAs_quote, Json.bind_ok, h]
    rfl

end MediaType

theorem Registration.written {name : String} {m n : MediaType}
    (h : MediaType.parse m.display = .ok n) :
    Json.Written Registration.record.read (Registration.write ⟨name, m⟩) ⟨name, n⟩ :=
  Json.Record.written (.field rfl rfl (Json.written_quote name)
    (.field rfl rfl (MediaType.written h) .nil)) rfl

namespace MediaType

/-- A media type that has been read is displayed as a text that reads as a media type again, and is the
same, also by way of JSON, if and only if no value begins or ends with white space. -/
theorem parse_display_iff {s : String} {m : MediaType} (h : parse s = .ok m) :
    parse m.display = .ok m.reread ∧
    (parse m.display = .ok m ↔ m.Unpadded) ∧
    (DataType.mediaType.ofJson (DataType.mediaType.toJson m) = .ok m ↔ m.Unpadded) ∧
    ∀ name : String, DataType.registration.ofJson (DataType.registration.toJson ⟨name, m⟩) =
      .ok ⟨name, m⟩ ↔ m.Unpadded := by
  have ht := tidy_of_parse h
  have hp := parse_display ht
  have hm : DataType.mediaType.ofJson (DataType.mediaType.toJson m) = .ok m.reread :=
    (written hp).whole_eq
  have hr : ∀ name : String, DataType.registration.ofJson
      (DataType.registration.toJson ⟨name, m⟩) = .ok ⟨name, m.reread⟩ :=
    fun name => (Registration.written hp).whole_eq
  refine ⟨hp, ?_, ?_, fun name => ?_⟩
  · rw [hp, Except.ok.injEq, reread_eq_self_iff ht]
  · rw [hm, Except.ok.injEq, reread_eq_self_iff ht]
  · rw [hr, Except.ok.injEq, Registration.mk.injEq, reread_eq_self_iff ht]
    simp

theorem parse_display_iff_charset :
    let m : MediaType := ⟨"text/plain", [("charset", "UTF-8"), ("k", "a = b")], by decide⟩
    parse "Text/Plain; k=\"a = b\" ;charset=UTF-8" = .ok m ∧ m.Unpadded ∧
      parse m.display = .ok m ∧
      DataType.registration.ofJson (DataType.registration.toJson ⟨"shout", m⟩) =
        .ok ⟨"shout", m⟩ := by
  intro m
  have h : parse "Text/Plain; k=\"a = b\" ;charset=UTF-8" = .ok m := rfl
  have hu : m.Unpadded := by simp [m, Unpadded, Stripped]; decide
  obtain ⟨-, hp, -, hr⟩ := parse_display_iff h
  exact ⟨h, hu, hp.mpr hu, (hr "shout").mpr hu⟩

/-- White space within the quotes belongs to the value, and is not read back. -/
theorem padding_lost_by_display :
    let m : MediaType := ⟨"text/plain", [("k", " a ")], by decide⟩
    let n : MediaType := ⟨"text/plain", [("k", "a")], by decide⟩
    parse "text/plain;k=\" a \"" = .ok m ∧ parse m.display = .ok n ∧ n ≠ m ∧
      DataType.mediaType.ofJson (DataType.mediaType.toJson m) = .ok n := by
  intro m n
  have h : parse "text/plain;k=\" a \"" = .ok m := rfl
  have hp : parse m.display = .ok n := parse_display (tidy_of_parse h)
  exact ⟨h, hp, by decide, (written hp).whole_eq⟩

end MediaType

end OneShot
