import OneShot.Proofs.Json.Skimming

/-! Readers and the texts they are for. A reader that recognizes a form reads the texts of the form as
their values, with white space before them and whatever follows them, and reads nothing else. -/

namespace OneShot.Json

variable {α β : Type}

structure Recognizes (read : Reader α) (Form : List Char → α → Prop) : Prop where
  space : ∀ w s, Space w → read (w ++ s) = read s
  opens : ∀ text a, Form text a → ∃ c t, text = c :: t ∧ opensValue c = true
  complete : ∀ text a r, Form text a → EndsNumber r → read (text ++ r) = .ok (a, r)
  sound : ∀ s a r, read s = .ok (a, r) → ∃ w text, s = w ++ (text ++ r) ∧ Space w ∧ Form text a

namespace Recognizes

variable {read : Reader α} {Form : List Char → α → Prop} {text : List Char} {a b : α}

theorem read_append (h : Recognizes read Form) (ha : Form text a) {w r : List Char} (hw : Space w)
    (hr : EndsNumber r) : read (w ++ (text ++ r)) = .ok (a, r) := by
  rw [h.space w _ hw, h.complete text a r ha hr]

/-- A text has one value. -/
theorem unique (h : Recognizes read Form) (ha : Form text a) (hb : Form text b) : a = b := by
  have hr : EndsNumber [] := fun _ hc => nomatch hc
  have he := (h.complete text a [] ha hr).symm.trans (h.complete text b [] hb hr)
  cases he
  rfl

theorem skipSpace_append (h : Recognizes read Form) (ha : Form text a) {w : List Char}
    (hw : Space w) (r : List Char) : skipSpace (w ++ (text ++ r)) = text ++ r := by
  obtain ⟨c, t, rfl, hc⟩ := h.opens text a ha
  rw [hw.skipSpace_append, List.cons_append, skipSpace_of_opensValue hc]

/-- A text that is read up to its end, and has no white space in front, is of the form. -/
theorem form_of_read (h : Recognizes read Form) {c : Char} {t : List Char}
    (hc : opensValue c = true) (hr : read (c :: t) = .ok (a, [])) : Form (c :: t) a := by
  obtain ⟨w, text, he, hw, ht⟩ := h.sound _ _ _ hr
  rw [List.append_nil] at he
  have hk : skipSpace (c :: t) = text := by
    have hk := h.skipSpace_append ht hw []
    rwa [List.append_nil, ← he] at hk
  rw [skipSpace_of_opensValue hc] at hk
  exact hk ▸ ht

theorem map (h : Recognizes read Form) (f : α → β) :
    Recognizes (fun s => (read s).map fun (a, r) => (f a, r))
      fun text b => ∃ a, Form text a ∧ b = f a where
  space w s hw := by rw [h.space w s hw]
  opens := by
    rintro text _ ⟨a, ha, rfl⟩
    exact h.opens text a ha
  complete := by
    rintro text _ r ⟨a, ha, rfl⟩ hr
    rw [h.complete text a r ha hr]
    rfl
  sound s b r hs := by
    obtain ⟨⟨a, _⟩, ha, he⟩ := exists_of_map_eq_ok hs
    cases he
    obtain ⟨w, text, hs, hw, ht⟩ := h.sound s a r ha
    exact ⟨w, text, hs, hw, a, ht, rfl⟩

theorem congr {Form' : List Char → α → Prop} (h : Recognizes read Form)
    (hf : ∀ text a, Form text a ↔ Form' text a) : Recognizes read Form' := by
  have he : Form = Form' := funext fun text => funext fun a => propext (hf text a)
  exact he ▸ h

end Recognizes

theorem whole_eq_ok_iff {read : Reader α} {text : String} {a : α} :
    whole read text = .ok a ↔ ∃ r, read text.toList = .ok (a, r) ∧ Space r := by
  constructor
  · intro h
    rw [whole] at h
    split at h
    · rename_i ha
      cases h
      obtain ⟨⟨b, r⟩, hb, ha⟩ := exists_of_bind_eq_ok ha
      dsimp only at ha
      split at ha
      · rename_i hr
        cases ha
        exact ⟨r, hb, space_of_skipSpace hr⟩
      · cases ha
    · cases h
  · rintro ⟨r, hr, hw⟩
    simp only [whole, readAlone, hr, bind_ok, hw.skipSpace_eq]
    rfl

/-- A reader that recognizes a form takes a whole text if it is one of the form, with white space
around it. -/
theorem Recognizes.whole_eq_ok_iff {read : Reader α} {Form : List Char → α → Prop}
    (h : Recognizes read Form) {s : String} {a : α} :
    whole read s = .ok a ↔ ∃ text, Padded text s.toList ∧ Form text a := by
  rw [Json.whole_eq_ok_iff]
  constructor
  · rintro ⟨r, hr, hw⟩
    obtain ⟨l, text, hs, hl, ht⟩ := h.sound _ _ _ hr
    exact ⟨text, ⟨l, r, hl, hw, hs⟩, ht⟩
  · rintro ⟨text, ⟨l, r, hl, hw, hs⟩, ht⟩
    have hend : EndsNumber (r ++ []) := hw.endsNumber_append fun _ hc => nomatch hc
    rw [List.append_nil] at hend
    exact ⟨r, hs ▸ h.read_append ht hl hend, hw⟩

/-! Raw text. -/

theorem recognizes_raw : Recognizes readRaw fun text cs => WellFormed text ∧ cs = text where
  space w s hw := by simp only [readRaw, hw.skipSpace_append]
  opens := fun text cs h => h.1.opens
  complete := by
    rintro text _ r ⟨ht, rfl⟩ hr
    obtain ⟨c, t, rfl, hc⟩ := ht.opens
    have hs : skim (c :: t ++ r) = .ok r := skim_complete ht [] r space_nil hr
    have hk : skipSpace (c :: t ++ r) = c :: t ++ r := skipSpace_of_opensValue hc _
    have hlen : (c :: t ++ r).length - r.length = (c :: t).length := by
      rw [List.length_append, Nat.add_sub_cancel]
    simp only [readRaw, hk, hs, bind_ok, hlen, List.take_left]
    rfl
  sound s cs r h := by
    obtain ⟨w, hw, hs⟩ := exists_skipSpace s
    obtain ⟨rest, hrest, he⟩ := exists_of_bind_eq_ok h
    obtain ⟨v, text, hv, hspace, ht⟩ := skim_sound _ _ hrest
    -- The white space has been skipped already.
    have hskip : skipSpace s = text ++ rest := by
      obtain ⟨c, t, rfl, hc⟩ := ht.opens
      have hk := skipSpace_of_opensValue hc (t ++ rest)
      rw [← List.cons_append, ← hspace.skipSpace_append, ← hv, skipSpace_skipSpace] at hk
      exact hk
    have hlen : (text ++ rest).length - rest.length = text.length := by
      rw [List.length_append, Nat.add_sub_cancel]
    rw [hskip] at hs
    simp only [hskip, hlen, List.take_left] at he
    cases he
    exact ⟨w, cs, hs, hw, ht, rfl⟩

/-! Words and strings. -/

theorem recognizes_unit : Recognizes readUnit fun text _ => text = nullText where
  space w s hw := by simp only [readUnit, hw.skipSpace_append]
  opens := by
    rintro _ _ rfl
    exact ⟨_, _, rfl, rfl⟩
  complete := by
    rintro _ _ r rfl _
    exact congrArg (Except.map _) (scanWord_append ['u', 'l', 'l'] r)
  sound s a r h := by
    obtain ⟨w, hw, hs⟩ := exists_skipSpace s
    rw [readUnit] at h
    split at h
    · rename_i hk
      obtain ⟨r, hr, he⟩ := exists_of_map_eq_ok h
      cases he
      rw [hk, scanWord_sound hr] at hs
      exact ⟨w, nullText, hs, hw, rfl⟩
    · cases h

theorem spells_of_scanString {s cs r : List Char} (h : scanString s = .ok (cs, r)) :
    ∃ body, s = body ++ '"' :: r ∧ Spells body cs := by
  fun_induction scanString s generalizing cs with
  | case1 => cases h
  | case2 s =>
    cases h
    exact ⟨[], rfl, .nil⟩
  | case3 => cases h
  | case4 => cases h
  | case5 => cases h
  | case6 a b c d n hn hl hh a' b' c' d' s m hm hlm ih =>
    obtain ⟨⟨cs, r⟩, hs, he⟩ := exists_of_map_eq_ok h
    cases he
    obtain ⟨body, rfl, hb⟩ := ih hs
    exact ⟨_, rfl, .pair hn hh hm hlm hb⟩
  | case7 => cases h
  | case8 => cases h
  | case9 a b c d s n hn hl hh ih =>
    obtain ⟨⟨cs, r⟩, hs, he⟩ := exists_of_map_eq_ok h
    cases he
    obtain ⟨body, rfl, hb⟩ := ih hs
    exact ⟨_, rfl, .unit hn (Bool.eq_false_iff.mpr hl) (Bool.eq_false_iff.mpr hh) hb⟩
  | case10 => cases h
  | case11 l s _ _ c hc ih =>
    obtain ⟨⟨cs, r⟩, hs, he⟩ := exists_of_map_eq_ok h
    cases he
    obtain ⟨body, rfl, hb⟩ := ih hs
    exact ⟨_, rfl, .letter hc hb⟩
  | case12 => cases h
  | case13 => cases h
  | case14 => cases h
  | case15 c s hq hb hc ih =>
    obtain ⟨⟨cs, r⟩, hs, he⟩ := exists_of_map_eq_ok h
    cases he
    obtain ⟨body, rfl, hbody⟩ := ih hs
    exact ⟨_, rfl, .plain hq hb (Nat.not_lt.mp hc) hbody⟩

/-- A string literal and the text that it spells. -/
def IsString (text : List Char) (s : String) : Prop :=
  ∃ body, text = '"' :: (body ++ ['"']) ∧ Spells body s.toList

theorem isString_quote (s : String) : IsString (quote s) s :=
  ⟨s.toList.flatMap escape, quote_eq s, spells_flatMap_escape s.toList⟩

theorem IsString.wellFormed {text : List Char} {s : String} (h : IsString text s) :
    WellFormed text := by
  obtain ⟨body, rfl, hb⟩ := h
  exact .string (stringBody_iff.mpr hb.literal)

theorem recognizes_string (expected : String) : Recognizes (readStringAs expected) IsString where
  space w s hw := by simp only [readStringAs, hw.skipSpace_append]
  opens := by
    rintro _ _ ⟨body, rfl, -⟩
    exact ⟨_, _, rfl, rfl⟩
  complete := by
    rintro _ s r ⟨body, rfl, hb⟩ _
    have hk : skipSpace ('"' :: (body ++ ['"']) ++ r) = '"' :: (body ++ '"' :: r) := by
      rw [List.cons_append, skipSpace_of_opensValue rfl, List.append_assoc]
      rfl
    simp only [readStringAs, hk, scanString_of_spells hb, Except.map, String.ofList_toList]
  sound s a r h := by
    obtain ⟨w, hw, hs⟩ := exists_skipSpace s
    rw [readStringAs] at h
    split at h
    · rename_i hk
      obtain ⟨⟨cs, r⟩, hr, he⟩ := exists_of_map_eq_ok h
      cases he
      obtain ⟨body, rfl, hb⟩ := spells_of_scanString hr
      rw [hk] at hs
      exact ⟨w, '"' :: (body ++ ['"']), by simp [hs], hw, body, rfl, by rwa [String.toList_ofList]⟩
    · cases h

/-- A text that may be `null`. -/
inductive Nullable (Form : List Char → α → Prop) : List Char → Option α → Prop
  | null : Nullable Form nullText none
  | value {text : List Char} {a : α} (h : Form text a) : Nullable Form text (some a)

theorem Recognizes.option {read : Reader α} {Form : List Char → α → Prop}
    (h : Recognizes read Form) (hn : ∀ text a, Form text a → text.head? ≠ some 'n') :
    Recognizes (readOption read) (Nullable Form) where
  space w s hw := by simp only [readOption, hw.skipSpace_append]
  opens := by
    rintro _ _ (_ | ha)
    · exact ⟨_, _, rfl, rfl⟩
    · exact h.opens _ _ ha
  complete := by
    rintro text _ r (_ | @⟨_, a, ha⟩) hr
    · exact congrArg (Except.map _) (scanWord_append ['u', 'l', 'l'] r)
    · have hne := hn text a ha
      have hread := h.complete text a r ha hr
      have hk := h.skipSpace_append ha space_nil r
      obtain ⟨c, t, rfl, -⟩ := h.opens text a ha
      simp only [List.nil_append, List.cons_append] at hk hread ⊢
      simp only [readOption, hk]
      split
      · rename_i he
        rw [(List.cons.inj he).1] at hne
        exact absurd rfl hne
      · rw [hread]
        rfl
  sound s o r hs := by
    obtain ⟨w, hw, he⟩ := exists_skipSpace s
    rw [readOption] at hs
    split at hs
    · rename_i hk
      obtain ⟨r, hr, ho⟩ := exists_of_map_eq_ok hs
      cases ho
      rw [hk, scanWord_sound hr] at he
      exact ⟨w, nullText, he, hw, .null⟩
    · obtain ⟨⟨a, r⟩, hr, ho⟩ := exists_of_map_eq_ok hs
      cases ho
      obtain ⟨v, text, hv, hspace, ht⟩ := h.sound _ _ _ hr
      exact ⟨w ++ v, text, by rw [he, hv, List.append_assoc], hw.append hspace, .value ht⟩

end OneShot.Json
