import OneShot.Proofs.Dictionary
import OneShot.Proofs.MediaType
import Mathlib.Logic.Relation

/-! The texts that are read as media types, what is read from them, and which differences between texts
do not count. -/

namespace OneShot

namespace MediaType

/-! The grammar. -/

/-- A text cut at all of its semicolons. -/
def Segmented (s first : List Char) (rest : List (List Char)) : Prop :=
  s = first ++ (rest.flatMap fun w => ';' :: w) ∧ ∀ w ∈ first :: rest, ';' ∉ w

/-- Two texts with the only slash between them. -/
def IsType (s : List Char) : Prop :=
  ∃ l r, s = l ++ '/' :: r ∧ l ≠ [] ∧ r ≠ [] ∧ '/' ∉ l ∧ '/' ∉ r

def Blank (s : List Char) : Prop :=
  ∀ c ∈ s, isBlank c = true

/-- A text between semicolons that is a parameter or nothing. -/
def WellPut (segment : List Char) : Prop :=
  Blank segment ∨ '=' ∈ segment

def nameOf (s : List Char) : String :=
  String.ofList ((strip isBlank s).map Char.toLower)

/-- The name and the value of a parameter. -/
def binding? (segment : List Char) : Option (String × String) :=
  (cutFirst '=' segment).map fun (name, value) => (nameOf name, valueOf value)

theorem segmented_iff {s first : List Char} {rest : List (List Char)} :
    Segmented s first rest ↔ cutAt (fun c => c == ';') s = first :: rest := by
  constructor
  · rintro ⟨rfl, h⟩
    obtain ⟨hfirst, hrest⟩ := List.forall_mem_cons.mp h
    exact cutAt_append_flatMap rfl (ne_of_not_mem hfirst) fun w hw => ne_of_not_mem (hrest w hw)
  · intro h
    refine ⟨eq_append_of_cutAt h, fun w hw hc => ?_⟩
    exact absurd (eq_false_of_mem_cutAt (h ▸ hw) ';' hc) (by decide)

theorem exists_segmented (s : List Char) : ∃ first rest, Segmented s first rest := by
  obtain ⟨first, rest, h⟩ := List.exists_cons_of_ne_nil (cutAt_ne_nil (fun c => c == ';') s)
  exact ⟨first, rest, segmented_iff.mpr h⟩

theorem isEssence_iff {s : List Char} : isEssence s = true ↔ IsType s := by
  constructor
  · intro h
    rw [isEssence] at h
    split at h
    · rename_i l r hc
      obtain ⟨rfl, hl⟩ := eq_append_of_cutFirst hc
      simp only [Bool.and_eq_true, Bool.not_eq_true', List.isEmpty_eq_false_iff,
        List.contains_eq_mem, decide_eq_false_iff_not] at h
      exact ⟨l, r, rfl, h.1.1, h.1.2, hl, h.2⟩
    · cases h
  · rintro ⟨l, r, rfl, hl, hr, hnl, hnr⟩
    simp [isEssence, cutFirst_append hnl, hl, hr, hnr]

theorem isType_map_toLower {s : List Char} : IsType (s.map Char.toLower) ↔ IsType s := by
  have hslash {t : List Char} : '/' ∈ t.map Char.toLower ↔ '/' ∈ t :=
    mem_map_toLower_iff (by decide)
  constructor
  · rintro ⟨l, r, h, hl, hr, hnl, hnr⟩
    obtain ⟨l, t, rfl, rfl, ht⟩ := List.map_eq_append_iff.mp h
    obtain ⟨c, r, rfl, hc, rfl⟩ := List.map_eq_cons_iff.mp ht
    rw [toLower_eq_iff (by decide)] at hc
    subst hc
    exact ⟨l, r, rfl, by simpa using hl, by simpa using hr, hslash.not.mp hnl, hslash.not.mp hnr⟩
  · rintro ⟨l, r, rfl, hl, hr, hnl, hnr⟩
    refine ⟨l.map Char.toLower, r.map Char.toLower, ?_, by simpa using hl, by simpa using hr,
      hslash.not.mpr hnl, hslash.not.mpr hnr⟩
    rw [List.map_append, List.map_cons, (toLower_eq_iff (by decide)).mpr rfl]

theorem strip_eq_nil_iff_blank {s : List Char} : strip isBlank s = [] ↔ Blank s :=
  strip_eq_nil_iff

/-! One parameter. -/

theorem exists_binding {segment : List Char} (h : '=' ∈ segment) :
    ∃ e, binding? segment = some e := by
  obtain ⟨l, r, hc⟩ := exists_cutFirst h
  exact ⟨_, by rw [binding?, hc]; rfl⟩

theorem binding?_of_blank {segment : List Char} (h : Blank segment) : binding? segment = none := by
  have hnot : '=' ∉ segment := fun hm => absurd (h '=' hm) (by decide)
  rw [binding?, cutFirst_eq_none_iff.mpr hnot]
  rfl

theorem addParam_of_blank {segment : List Char} (h : Blank segment) (params : Dictionary String) :
    addParam params segment = .ok params := by
  rw [addParam, strip_eq_nil_iff_blank.mpr h]
  rfl

theorem addParam_of_binding {segment : List Char} {e : String × String} (h : binding? segment = some e)
    (params : Dictionary String) : addParam params segment = .ok (params.insert e.1 e.2) := by
  obtain ⟨⟨name, value⟩, hc, rfl⟩ := Option.map_eq_some_iff.mp h
  have hmem : '=' ∈ strip isBlank segment := by
    rw [mem_strip_iff (by decide), (eq_append_of_cutFirst hc).1]
    simp
  obtain ⟨l, r, hs⟩ := exists_cutFirst hmem
  obtain ⟨l', r', hc', hl, hr⟩ := exists_cutFirst_strip (by decide) hs
  rw [hc] at hc'
  cases hc'
  rw [addParam, if_neg (by simpa using List.ne_nil_of_mem hmem), hs]
  simp only [nameOf, valueOf, hl, hr]

theorem addParam_of_bad {segment : List Char} (h : ¬ WellPut segment)
    (params : Dictionary String) :
    addParam params segment = .error (.badParameter (String.ofList (strip isBlank segment))) := by
  obtain ⟨hblank, hnot⟩ := not_or.mp h
  have hne : strip isBlank segment ≠ [] := mt strip_eq_nil_iff_blank.mp hblank
  have hcut : cutFirst '=' (strip isBlank segment) = none := by
    rwa [cutFirst_eq_none_iff, mem_strip_iff (by decide)]
  rw [addParam, if_neg (by simpa using hne), hcut]

/-! All parameters. -/

theorem addParams_of_wellPut {segments : List (List Char)} (h : ∀ w ∈ segments, WellPut w)
    (params : Dictionary String) :
    addParams params segments =
      .ok ((segments.filterMap binding?).foldl (fun d e => d.insert e.1 e.2) params) := by
  induction segments generalizing params with
  | nil => rfl
  | cons segment segments ih =>
    obtain ⟨hfirst, hrest⟩ := List.forall_mem_cons.mp h
    rcases hfirst with hblank | hmem
    · rw [addParams, addParam_of_blank hblank, List.filterMap_cons_none (binding?_of_blank hblank)]
      exact ih hrest params
    · obtain ⟨e, he⟩ := exists_binding hmem
      rw [addParams, addParam_of_binding he, List.filterMap_cons_some he]
      exact ih hrest _

theorem addParams_of_bad {before after : List (List Char)} {segment : List Char}
    (h : ∀ w ∈ before, WellPut w) (hs : ¬ WellPut segment) (params : Dictionary String) :
    addParams params (before ++ segment :: after) =
      .error (.badParameter (String.ofList (strip isBlank segment))) := by
  induction before generalizing params with
  | nil => rw [List.nil_append, addParams, addParam_of_bad hs]
  | cons first before ih =>
    obtain ⟨hfirst, hrest⟩ := List.forall_mem_cons.mp h
    rw [List.cons_append, addParams]
    rcases hfirst with hblank | hmem
    · rw [addParam_of_blank hblank]
      exact ih hrest params
    · obtain ⟨e, he⟩ := exists_binding hmem
      rw [addParam_of_binding he]
      exact ih hrest _

/-- The first of the segments that is neither blank nor a parameter, if there is one. -/
theorem wellPut_or_exists_bad (segments : List (List Char)) :
    (∀ w ∈ segments, WellPut w) ∨ ∃ before segment after,
      segments = before ++ segment :: after ∧ (∀ w ∈ before, WellPut w) ∧ ¬ WellPut segment := by
  induction segments with
  | nil => exact .inl nofun
  | cons first segments ih =>
    by_cases hfirst : WellPut first
    · rcases ih with h | ⟨before, segment, after, rfl, hb, hs⟩
      · exact .inl (List.forall_mem_cons.mpr ⟨hfirst, h⟩)
      · exact .inr ⟨first :: before, segment, after, rfl, List.forall_mem_cons.mpr ⟨hfirst, hb⟩, hs⟩
    · exact .inr ⟨[], first, segments, rfl, nofun, hfirst⟩

theorem forall_wellPut_iff {segments : List (List Char)} {params : Dictionary String} :
    (∀ w ∈ segments, WellPut w) ↔ ∃ all, addParams params segments = .ok all := by
  constructor
  · exact fun h => ⟨_, addParams_of_wellPut h params⟩
  · rintro ⟨all, ha⟩
    rcases wellPut_or_exists_bad segments with h | ⟨before, segment, after, rfl, hb, hs⟩
    · exact h
    · rw [addParams_of_bad hb hs] at ha
      cases ha

/-! Reading. -/

section

variable {s : String} {first : List Char} {rest : List (List Char)} {m : MediaType}

theorem parse_of_not_isType (hs : Segmented s.toList first rest)
    (h : ¬ IsType (strip isBlank first)) : parse s = .error (.badEssence s) := by
  have hn : ¬ isEssence ((strip isBlank first).map Char.toLower) = true := by
    rwa [isEssence_iff, isType_map_toLower]
  rw [parse, segmented_iff.mp hs]
  exact if_neg hn

theorem parse_of_isType (hs : Segmented s.toList first rest) (h : IsType (strip isBlank first)) :
    parse s = (addParams Dictionary.empty rest).map fun params =>
      ⟨String.ofList ((strip isBlank first).map Char.toLower), params⟩ := by
  have hy : isEssence ((strip isBlank first).map Char.toLower) = true := by
    rwa [isEssence_iff, isType_map_toLower]
  rw [parse, segmented_iff.mp hs]
  exact if_pos hy

theorem parse_eq_ok_iff (hs : Segmented s.toList first rest) :
    parse s = .ok m ↔ IsType (strip isBlank first) ∧ (∀ w ∈ rest, WellPut w) ∧
      m.essence = nameOf first ∧
      m.params = (rest.filterMap binding?).foldl (fun d e => d.insert e.1 e.2) Dictionary.empty := by
  by_cases h : IsType (strip isBlank first)
  · rw [parse_of_isType hs h]
    constructor
    · intro hm
      obtain ⟨params, hp, rfl⟩ := Json.exists_of_map_eq_ok hm
      have hw := forall_wellPut_iff.mpr ⟨params, hp⟩
      rw [addParams_of_wellPut hw] at hp
      exact ⟨h, hw, rfl, (Except.ok.inj hp).symm⟩
    · rintro ⟨-, hw, he, hp⟩
      rw [addParams_of_wellPut hw, ← hp]
      obtain ⟨essence, params⟩ := m
      cases he
      rfl
  · rw [parse_of_not_isType hs h]
    exact ⟨nofun, fun hm => absurd hm.1 h⟩

end

/-! Texts that are alike. -/

/-- The same text but for the case of ASCII letters. -/
def SameCase (s t : List Char) : Prop :=
  s.map Char.toLower = t.map Char.toLower

/-- A text with white space around it. -/
def Framed (core s : List Char) : Prop :=
  ∃ l r, Blank l ∧ Blank r ∧ s = l ++ (core ++ r)

def SameEssence (s t : List Char) : Prop :=
  ∃ core core', Framed core s ∧ Framed core' t ∧ SameCase core core'

/-- One difference between the segments behind the first ones: the case of a name and the white space
around it and around its value, a blank segment, or two parameters of distinct names in another order. -/
inductive Rewording : List (List Char) → List (List Char) → Prop
  | param {before after : List (List Char)} {name name' value a a' b b' : List Char}
      (hn : SameCase name name') (he : '=' ∉ name) (ha : Framed name a) (ha' : Framed name' a')
      (hb : Framed value b) (hb' : Framed value b') :
      Rewording (before ++ (a ++ '=' :: b) :: after) (before ++ (a' ++ '=' :: b') :: after)
  | blank {before after : List (List Char)} {w : List Char} (hw : Blank w) :
      Rewording (before ++ w :: after) (before ++ after)
  | swap {before after : List (List Char)} {v w : List Char} {e f : String × String}
      (hv : binding? v = some e) (hw : binding? w = some f) (hne : e.1 ≠ f.1) :
      Rewording (before ++ v :: w :: after) (before ++ w :: v :: after)

/-- Texts with the same essence, and with segments that any number of differences lead to. -/
inductive Alike (s t : String) : Prop
  | mk {first first' : List Char} {rest rest' : List (List Char)}
      (hs : Segmented s.toList first rest) (ht : Segmented t.toList first' rest')
      (he : SameEssence first first') (hr : Relation.EqvGen Rewording rest rest')

theorem Framed.strip_eq {core s : List Char} (h : Framed core s) :
    strip isBlank s = strip isBlank core := by
  obtain ⟨l, r, hl, hr, rfl⟩ := h
  rw [strip_append_left hl, strip_append_right hr]

theorem Framed.not_mem {core s : List Char} (h : Framed core s) (hc : '=' ∉ core) : '=' ∉ s := by
  obtain ⟨l, r, hl, hr, rfl⟩ := h
  have hl' : '=' ∉ l := fun hm => absurd (hl '=' hm) (by decide)
  have hr' : '=' ∉ r := fun hm => absurd (hr '=' hm) (by decide)
  simp [hl', hc, hr']

theorem SameCase.not_mem {s t : List Char} (h : SameCase s t) (hs : '=' ∉ s) : '=' ∉ t := by
  have hequals {u : List Char} : '=' ∈ u.map Char.toLower ↔ '=' ∈ u :=
    mem_map_toLower_iff (by decide)
  rw [← hequals, ← h, hequals]
  exact hs

theorem SameCase.nameOf_eq {s t : List Char} (h : SameCase s t) : nameOf s = nameOf t := by
  rw [nameOf, nameOf, ← strip_map_toLower, h, strip_map_toLower]

/-- Segments that are read alike: all of them can be read or not all of either, and the last value of every
name is the same. -/
structure SameReading (l m : List (List Char)) : Prop where
  wellPut : (∀ w ∈ l, WellPut w) ↔ ∀ w ∈ m, WellPut w
  last : ∀ name, Dictionary.last? name (l.filterMap binding?) =
    Dictionary.last? name (m.filterMap binding?)

theorem binding?_of_framed {name value a b : List Char} (he : '=' ∉ name) (ha : Framed name a)
    (hb : Framed value b) : binding? (a ++ '=' :: b) = some (nameOf name, valueOf value) := by
  rw [binding?, cutFirst_append (ha.not_mem he)]
  simp only [Option.map_some, nameOf, valueOf, ha.strip_eq, hb.strip_eq]

theorem Rewording.sameReading {l m : List (List Char)} (h : Rewording l m) : SameReading l m := by
  cases h with
  | param hn he ha ha' hb hb' =>
    have hwell (a b : List Char) : WellPut (a ++ '=' :: b) := .inr (by simp)
    constructor
    · simp only [List.forall_mem_append, List.forall_mem_cons, hwell, true_and]
    · intro key
      simp only [List.filterMap_append, List.filterMap_cons, binding?_of_framed he ha hb,
        binding?_of_framed (hn.not_mem he) ha' hb', hn.nameOf_eq]
  | @blank before after w hw =>
    have hwell : WellPut w := .inl hw
    constructor
    · simp only [List.forall_mem_append, List.forall_mem_cons, hwell, true_and]
    · intro key
      simp only [List.filterMap_append, List.filterMap_cons, binding?_of_blank hw]
  | @swap before after v w e f hv hw hne =>
    constructor
    · simp only [List.forall_mem_append, List.forall_mem_cons, and_left_comm]
    · intro key
      simp only [List.filterMap_append, List.filterMap_cons, hv, hw, Dictionary.last?]
      by_cases hkey : e.1 = key
      · have hf : (f.1 == key) = false := beq_false_of_ne fun hf => hne (hkey.trans hf.symm)
        simp [hf]
      · simp [beq_false_of_ne hkey]

theorem sameReading_of_eqvGen {l m : List (List Char)} (h : Relation.EqvGen Rewording l m) :
    SameReading l m := by
  induction h with
  | rel l m h => exact h.sameReading
  | refl l => exact ⟨.rfl, fun _ => rfl⟩
  | symm l m _ ih => exact ⟨ih.wellPut.symm, fun name => (ih.last name).symm⟩
  | trans l m n _ _ ihl ihm =>
    exact ⟨ihl.wellPut.trans ihm.wellPut, fun name => (ihl.last name).trans (ihm.last name)⟩

theorem SameEssence.isType_iff {s t : List Char} (h : SameEssence s t) :
    IsType (strip isBlank s) ↔ IsType (strip isBlank t) := by
  obtain ⟨core, core', hs, ht, hc⟩ := h
  rw [hs.strip_eq, ht.strip_eq, ← isType_map_toLower, ← strip_map_toLower, hc, strip_map_toLower,
    isType_map_toLower]

theorem SameEssence.nameOf_eq {s t : List Char} (h : SameEssence s t) : nameOf s = nameOf t := by
  obtain ⟨core, core', hs, ht, hc⟩ := h
  rw [nameOf, nameOf, hs.strip_eq, ht.strip_eq]
  exact hc.nameOf_eq

theorem find?_params (segments : List (List Char)) (name : String) :
    ((segments.filterMap binding?).foldl (fun d e => d.insert e.1 e.2) Dictionary.empty).find? name =
      Dictionary.last? name (segments.filterMap binding?) := by
  rw [Dictionary.find?_foldl_insert, show Dictionary.empty.find? name = none from rfl, Option.or_none]

theorem Alike.parse_eq_ok_iff {s t : String} (h : Alike s t) (m : MediaType) :
    parse s = .ok m ↔ parse t = .ok m := by
  obtain ⟨hs, ht, he, hr⟩ := h
  have hread := sameReading_of_eqvGen hr
  have hparams := Dictionary.eq_of_find? fun name =>
    (find?_params _ name).trans ((hread.last name).trans (find?_params _ name).symm)
  rw [MediaType.parse_eq_ok_iff hs, MediaType.parse_eq_ok_iff ht, he.isType_iff, he.nameOf_eq,
    hread.wellPut, hparams]

/-- The case of the type and of a name, white space, and a blank segment. -/
example : Alike "Text/Plain; Charset=utf-8" "text/plain;;charset = utf-8" := by
  have hspace : Blank [' '] := List.forall_mem_singleton.mpr rfl
  have hframed (s : List Char) : Framed s s := ⟨[], [], nofun, nofun, by simp⟩
  have hbefore (s : List Char) : Framed s (' ' :: s) := ⟨[' '], [], hspace, nofun, by simp⟩
  have hafter (s : List Char) : Framed s (s ++ [' ']) := ⟨[], [' '], nofun, hspace, rfl⟩
  have hname : "Charset".toList.map Char.toLower = "charset".toList.map Char.toLower := by decide
  have htype : "Text/Plain".toList.map Char.toLower = "text/plain".toList.map Char.toLower := by decide
  have hparam : Rewording [" Charset=utf-8".toList] ["charset = utf-8".toList] :=
    @Rewording.param [] [] "Charset".toList "charset".toList "utf-8".toList _ _ _ _ hname (by decide)
      (hbefore _) (hafter _) (hframed _) (hbefore _)
  have hblank : Rewording [[], "charset = utf-8".toList] ["charset = utf-8".toList] :=
    @Rewording.blank [] _ [] nofun
  have hessence : SameEssence "Text/Plain".toList "text/plain".toList :=
    ⟨_, _, hframed _, hframed _, htype⟩
  exact .mk (segmented_iff.mpr rfl) (segmented_iff.mpr rfl) hessence
    (.trans _ _ _ (.rel _ _ hparam) (.symm _ _ (.rel _ _ hblank)))

/-- A text is read if its first segment has one slash with text on both sides, and every other segment is
blank or has an equals sign. Names are in lower case without white space, each with its last value; the
name is found in any case. Other texts are refused for the first segment, or else for the first of the
others that is bad. What is read from alike texts is the same. -/
theorem parse_segmented (s : String) :
    ∃ first rest, Segmented s.toList first rest ∧
      ((∃ m, parse s = .ok m) ↔ IsType (strip isBlank first) ∧ ∀ w ∈ rest, WellPut w) ∧
      (∀ m, parse s = .ok m →
        m.essence = String.ofList ((strip isBlank first).map Char.toLower) ∧
        (∀ key, m.params.find? key = Dictionary.last? key (rest.filterMap binding?)) ∧
        ∀ name : String, m.param? name =
          Dictionary.last? (String.ofList (name.toList.map Char.toLower)) (rest.filterMap binding?)) ∧
      (¬ IsType (strip isBlank first) →
        ∃ fault, parse s = .error fault ∧ fault.message = "Invalid media type: " ++ s) ∧
      (∀ before w after, IsType (strip isBlank first) → rest = before ++ w :: after →
        (∀ v ∈ before, WellPut v) → ¬ WellPut w →
        ∃ fault, parse s = .error fault ∧
          fault.message = "Invalid media type parameter: " ++ String.ofList (strip isBlank w)) ∧
      ∀ t, Alike s t → ∀ m, parse s = .ok m ↔ parse t = .ok m := by
  obtain ⟨first, rest, hs⟩ := exists_segmented s.toList
  refine ⟨first, rest, hs, ⟨?read, ?wellPut⟩, ?value, ?badEssence, ?badParameter, ?alike⟩
  case read =>
    rintro ⟨m, hm⟩
    obtain ⟨ht, hw, -, -⟩ := (parse_eq_ok_iff hs).mp hm
    exact ⟨ht, hw⟩
  case wellPut =>
    rintro ⟨ht, hw⟩
    exact ⟨⟨_, _⟩, (parse_eq_ok_iff hs).mpr ⟨ht, hw, rfl, rfl⟩⟩
  case value =>
    intro m hm
    obtain ⟨-, -, he, hp⟩ := (parse_eq_ok_iff hs).mp hm
    refine ⟨he, fun key => ?_, fun name => ?_⟩
    · rw [hp, find?_params]
    · rw [param?, hp, find?_params]
  case badEssence => exact fun ht => ⟨_, parse_of_not_isType hs ht, rfl⟩
  case badParameter =>
    rintro before w after ht rfl hb hw
    refine ⟨.badParameter (String.ofList (strip isBlank w)), ?_, rfl⟩
    rw [parse_of_isType hs ht, addParams_of_bad hb hw]
    rfl
  case alike => exact fun t h => h.parse_eq_ok_iff

end MediaType

end OneShot
