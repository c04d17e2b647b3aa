import OneShot.Proofs.Json.Given

/-! Records in both notations. In an object every known member stands once at most, in any place, and the
others are passed over. In an array the fields stand in order. -/

namespace OneShot.Json

variable {α β σ : Type} {s r : List Char}

/-- A field with its place in the draft and the form of its texts. -/
structure Slot (σ : Type) where
  name : String
  required : Bool
  Val : Type
  get : σ → Option Val
  enter : σ → Val → σ
  read : Reader Val
  Form : List Char → Val → Prop

def Slot.field (slot : Slot σ) : Field σ :=
  .make slot.name slot.required slot.get slot.enter slot.read

/-- A record whose fields fill the slots of its draft, each its own. The draft is known by its slots. -/
structure Slotted (record : Record σ α) (slots : List (Slot σ)) : Prop where
  fields : record.fields = slots.map Slot.field
  names : (slots.map Slot.name).Nodup
  recognizes : ∀ slot ∈ slots, Recognizes slot.read slot.Form
  blank : ∀ slot ∈ slots, slot.get record.blank = none
  own : ∀ slot ∈ slots, ∀ d v, slot.get (slot.enter d v) = some v
  other : ∀ slot ∈ slots, ∀ slot' ∈ slots, slot.name ≠ slot'.name →
    ∀ d v, slot'.get (slot.enter d v) = slot'.get d
  ext : ∀ d e, (∀ slot ∈ slots, slot.get d = slot.get e) → d = e

/-- A member fills the slot of its name, if it is empty, or is passed over. -/
inductive SlotStep (slots : List (Slot σ)) (name : String) (d : σ) (value : List Char) : σ → Prop
  | known {slot : Slot σ} {v : slot.Val} (hs : slot ∈ slots) (hn : slot.name = name)
      (he : slot.get d = none) (hv : slot.Form value v) :
      SlotStep slots name d value (slot.enter d v)
  | unknown (hn : ∀ slot ∈ slots, slot.name ≠ name) (hv : WellFormed value) :
      SlotStep slots name d value d

section

variable {record : Record σ α} {slots : List (Slot σ)} {d last : σ}
  {members : List (String × List Char)}

theorem find?_slot (hn : (slots.map Slot.name).Nodup) {slot : Slot σ} (hs : slot ∈ slots) :
    slots.find? (fun slot' => slot'.name == slot.name) = some slot := by
  induction slots with
  | nil => cases hs
  | cons first slots ih =>
    rw [List.map_cons, List.nodup_cons] at hn
    rcases List.mem_cons.mp hs with rfl | hs
    · simp
    · have hne : first.name ≠ slot.name := fun he => hn.1 (he ▸ List.mem_map_of_mem hs)
      rw [List.find?_cons_of_neg (by simpa using hne)]
      exact ih hn.2 hs

theorem Slotted.find?_known (h : Slotted record slots) {slot : Slot σ} (hs : slot ∈ slots) :
    record.fields.find? (fun f => f.name == slot.name) = some slot.field := by
  rw [h.fields, List.find?_map]
  exact congrArg _ (find?_slot h.names hs)

theorem Slotted.find?_unknown (h : Slotted record slots) {name : String}
    (hn : ∀ slot ∈ slots, slot.name ≠ name) :
    record.fields.find? (fun f => f.name == name) = none := by
  rw [h.fields, List.find?_map, Option.map_eq_none_iff, List.find?_eq_none]
  exact fun slot hs => by simpa [Slot.field, Field.make] using hn slot hs

theorem Slotted.recognizesMember (h : Slotted record slots) :
    RecognizesMember record.member (SlotStep slots) where
  complete := by
    rintro name d value _ w v r hstep hw hv hr
    rcases hstep with ⟨hs, rfl, he, hvalue⟩ | ⟨hn, hvalue⟩
    · have hread := (h.recognizes _ hs).read_append hvalue hv hr
      simp only [Record.member, h.find?_known hs, Slot.field, Field.make, he, Option.isSome_none,
        Bool.false_eq_true, if_false, scanColon_complete hw, bind_ok, hread]
      rfl
    · have hread := skim_complete hvalue v r hv hr
      simp only [Record.member, h.find?_unknown hn, scanColon_complete hw, bind_ok, hread]
      rfl
  sound name d s e r hread := by
    by_cases hn : ∀ slot ∈ slots, slot.name ≠ name
    · simp only [Record.member, h.find?_unknown hn] at hread
      obtain ⟨s₁, hcolon, hread⟩ := exists_of_bind_eq_ok hread
      obtain ⟨s₂, hskim, hread⟩ := exists_of_bind_eq_ok hread
      cases hread
      obtain ⟨w, hw, hs⟩ := scanColon_sound hcolon
      obtain ⟨v, value, hs₁, hv, hvalue⟩ := skim_sound _ _ hskim
      exact ⟨w, v, value, by rw [hs, hs₁], hw, hv, .unknown hn hvalue⟩
    · simp only [not_forall, not_not] at hn
      obtain ⟨slot, hs, rfl⟩ := hn
      simp only [Record.member, h.find?_known hs, Slot.field, Field.make] at hread
      split at hread
      · cases hread
      · rename_i hempty
        obtain ⟨s₁, hcolon, hread⟩ := exists_of_bind_eq_ok hread
        obtain ⟨⟨v, r'⟩, hvalue, hread⟩ := exists_of_map_eq_ok hread
        cases hread
        obtain ⟨w, hw, hs'⟩ := scanColon_sound hcolon
        obtain ⟨u, value, hs₁, hu, hform⟩ := (h.recognizes slot hs).sound _ _ _ hvalue
        exact ⟨w, u, value, by rw [hs', hs₁], hw, hu,
          .known hs rfl (Option.not_isSome_iff_eq_none.mp hempty) hform⟩

/-- What a run of the members leaves in a slot. One that was filled before has no member. -/
theorem Slotted.run_get (h : Slotted record slots) (hr : Run (SlotStep slots) d members last)
    {slot : Slot σ} (hs : slot ∈ slots) :
    (slot.get d = none → Given slot.Form slot.name members (slot.get last)) ∧
      (slot.get d ≠ none → (∀ m ∈ members, m.1 ≠ slot.name) ∧ slot.get last = slot.get d) := by
  induction hr with
  | @nil d =>
    refine ⟨fun he => he ▸ .absent nofun, fun _ => ⟨nofun, rfl⟩⟩
  | @cons name value d e last members hstep hr ih =>
    cases hstep with
    | @known slot' v hs' hn he hv =>
      subst hn
      by_cases hname : slot.name = slot'.name
      · -- The slots are the same, for they have the same name.
        have heq : slot = slot' := by
          have hf := find?_slot h.names hs
          rw [hname, find?_slot h.names hs'] at hf
          exact (Option.some.inj hf).symm
        subst heq
        have hfilled := h.own slot hs d v
        obtain ⟨hno, hlast⟩ := ih.2 (by rw [hfilled]; exact nofun)
        refine ⟨fun _ => ?_, fun hne => absurd he hne⟩
        rw [Given.cons_self, hlast, hfilled]
        exact ⟨hno, v, rfl, hv⟩
      · have hget := h.other slot' hs' slot hs (Ne.symm hname) d v
        rw [hget] at ih
        refine ⟨fun hnone => (Given.cons_of_ne (Ne.symm hname)).mpr (ih.1 hnone), fun hne => ?_⟩
        obtain ⟨hno, hlast⟩ := ih.2 hne
        exact ⟨List.forall_mem_cons.mpr ⟨Ne.symm hname, hno⟩, hlast⟩
    | unknown hn hv =>
      have hname : name ≠ slot.name := (hn slot hs).symm
      refine ⟨fun hnone => (Given.cons_of_ne hname).mpr (ih.1 hnone), fun hne => ?_⟩
      obtain ⟨hno, hlast⟩ := ih.2 hne
      exact ⟨List.forall_mem_cons.mpr ⟨hname, hno⟩, hlast⟩

theorem run_unknown (hr : Run (SlotStep slots) d members last) :
    ∀ m ∈ members, (∀ slot ∈ slots, slot.name ≠ m.1) → WellFormed m.2 := by
  induction hr with
  | nil => exact nofun
  | cons hstep _ ih =>
    refine List.forall_mem_cons.mpr ⟨fun hn => ?_, ih⟩
    cases hstep with
    | known hs hn' => exact absurd hn' (hn _ hs)
    | unknown _ hv => exact hv

theorem Slotted.exists_run (h : Slotted record slots)
    (hfilled : ∀ slot ∈ slots, slot.get d ≠ none → ∀ m ∈ members, m.1 ≠ slot.name)
    (hg : ∀ slot ∈ slots, ∃ o, Given slot.Form slot.name members o)
    (hu : ∀ m ∈ members, (∀ slot ∈ slots, slot.name ≠ m.1) → WellFormed m.2) :
    ∃ last, Run (SlotStep slots) d members last := by
  induction members generalizing d with
  | nil => exact ⟨d, .nil⟩
  | cons m members ih =>
    obtain ⟨name, value⟩ := m
    have hu' := (List.forall_mem_cons.mp hu).2
    by_cases hn : ∀ slot ∈ slots, slot.name ≠ name
    · have hrest : ∀ slot ∈ slots, ∃ o, Given slot.Form slot.name members o := by
        intro slot hs
        obtain ⟨o, ho⟩ := hg slot hs
        exact ⟨o, (Given.cons_of_ne (hn slot hs).symm).mp ho⟩
      obtain ⟨last, hlast⟩ := ih (fun slot hs hne => (List.forall_mem_cons.mp (hfilled slot hs hne)).2)
        hrest hu'
      exact ⟨last, .cons (.unknown hn ((List.forall_mem_cons.mp hu).1 hn)) hlast⟩
    · simp only [not_forall, not_not] at hn
      obtain ⟨slot, hs, rfl⟩ := hn
      have hempty : slot.get d = none := by
        by_contra hne
        exact absurd rfl (hfilled slot hs hne _ List.mem_cons_self)
      obtain ⟨o, ho⟩ := hg slot hs
      obtain ⟨hno, v, rfl, hv⟩ := Given.cons_self.mp ho
      have hrest : ∀ slot' ∈ slots, ∃ o, Given slot'.Form slot'.name members o := by
        intro slot' hs'
        by_cases hname : slot.name = slot'.name
        · exact ⟨none, .absent fun m hm => hname ▸ hno m hm⟩
        · obtain ⟨o, ho⟩ := hg slot' hs'
          exact ⟨o, (Given.cons_of_ne hname).mp ho⟩
      have hfilled' : ∀ slot' ∈ slots, slot'.get (slot.enter d v) ≠ none →
          ∀ m ∈ members, m.1 ≠ slot'.name := by
        intro slot' hs' hne
        by_cases hname : slot.name = slot'.name
        · exact fun m hm => hname ▸ hno m hm
        · rw [h.other slot hs slot' hs' hname] at hne
          exact (List.forall_mem_cons.mp (hfilled slot' hs' hne)).2
      obtain ⟨last, hlast⟩ := ih hfilled' hrest hu'
      exact ⟨last, .cons (.known hs rfl hempty hv) hlast⟩

/-- The members of an object leave a draft just when they give what is in its slots. -/
theorem Slotted.run_iff (h : Slotted record slots) :
    Run (SlotStep slots) record.blank members last ↔
      (∀ slot ∈ slots, Given slot.Form slot.name members (slot.get last)) ∧
        ∀ m ∈ members, (∀ slot ∈ slots, slot.name ≠ m.1) → WellFormed m.2 := by
  constructor
  · intro hr
    exact ⟨fun slot hs => (h.run_get hr hs).1 (h.blank slot hs), run_unknown hr⟩
  · rintro ⟨hg, hu⟩
    have hfilled : ∀ slot ∈ slots, slot.get record.blank ≠ none → ∀ m ∈ members, m.1 ≠ slot.name :=
      fun slot hs hne => absurd (h.blank slot hs) hne
    obtain ⟨other, hr⟩ := h.exists_run hfilled (fun slot hs => ⟨_, hg slot hs⟩) hu
    have he : other = last := h.ext other last fun slot hs =>
      ((h.run_get hr hs).1 (h.blank slot hs)).unique (h.recognizes slot hs) (hg slot hs)
    exact he ▸ hr

end

/-! Records in arrays. -/

/-- The items of an array fill the first slots one after the other. Those that are left need no value. -/
inductive Filling : List (Slot σ) → σ → List (List Char) → σ → Prop
  | rest {slots : List (Slot σ)} {d : σ} (h : ∀ slot ∈ slots, slot.required = false) :
      Filling slots d [] d
  | item {slot : Slot σ} {slots : List (Slot σ)} {d last : σ} {item : List Char} {v : slot.Val}
      {items : List (List Char)} (hv : slot.Form item v)
      (h : Filling slots (slot.enter d v) items last) :
      Filling (slot :: slots) d (item :: items) last

/-- What the items of an array give for the slots in order. -/
inductive GivenInOrder (d : σ) : List (Slot σ) → List (List Char) → Prop
  | absent {slots : List (Slot σ)}
      (h : ∀ slot ∈ slots, slot.required = false ∧ slot.get d = none) : GivenInOrder d slots []
  | item {slot : Slot σ} {slots : List (Slot σ)} {item : List Char} {v : slot.Val}
      {items : List (List Char)} (hv : slot.Form item v) (hd : slot.get d = some v)
      (h : GivenInOrder d slots items) : GivenInOrder d (slot :: slots) (item :: items)

section

variable {record : Record σ α} {slots all : List (Slot σ)} {d last : σ} {items : List (List Char)}

/-- Slots of other names are left as they are. -/
theorem Slotted.filling_get_of_ne (h : Slotted record all) (hsub : ∀ slot ∈ slots, slot ∈ all)
    (hf : Filling slots d items last) {slot : Slot σ} (hs : slot ∈ all)
    (hne : ∀ slot' ∈ slots, slot'.name ≠ slot.name) : slot.get last = slot.get d := by
  induction hf with
  | rest => rfl
  | @item first slots d last _ v items hv hf ih =>
    obtain ⟨hfirst, hrest⟩ := List.forall_mem_cons.mp hsub
    rw [ih hrest (fun slot' hs' => hne slot' (List.mem_cons_of_mem _ hs'))]
    exact h.other first hfirst slot hs (hne first List.mem_cons_self) d v

theorem Slotted.filling_given (h : Slotted record all) (hsub : ∀ slot ∈ slots, slot ∈ all)
    (hn : (slots.map Slot.name).Nodup) (hd : ∀ slot ∈ slots, slot.get d = none)
    (hf : Filling slots d items last) : GivenInOrder last slots items := by
  induction hf with
  | rest hreq => exact .absent fun slot hs => ⟨hreq slot hs, hd slot hs⟩
  | @item first slots d last _ v items hv hf ih =>
    obtain ⟨hfirst, hrest⟩ := List.forall_mem_cons.mp hsub
    rw [List.map_cons, List.nodup_cons] at hn
    have hne : ∀ slot ∈ slots, slot.name ≠ first.name := fun slot hs he =>
      hn.1 (he ▸ List.mem_map_of_mem hs)
    have hget := h.filling_get_of_ne hrest hf hfirst hne
    refine .item hv (hget.trans (h.own first hfirst d v)) (ih hrest hn.2 fun slot hs => ?_)
    rw [h.other first hfirst slot (hrest slot hs) (hne slot hs).symm]
    exact hd slot (List.mem_cons_of_mem _ hs)

theorem givenInOrder_nil : GivenInOrder d [] items ↔ items = [] := by
  constructor
  · rintro ⟨⟩
    rfl
  · rintro rfl
    exact .absent nofun

/-- A slot that needs no value is given the first item, or nothing is given any more. -/
theorem givenInOrder_cons {slot : Slot σ} (hreq : slot.required = false) :
    GivenInOrder d (slot :: slots) items ↔
      Option.Rel slot.Form items[0]? (slot.get d) ∧ GivenInOrder d slots items.tail := by
  constructor
  · rintro (h | ⟨hv, hd, h⟩)
    · obtain ⟨⟨-, hnone⟩, hrest⟩ := List.forall_mem_cons.mp h
      exact ⟨hnone ▸ .none, .absent hrest⟩
    · exact ⟨hd ▸ .some hv, h⟩
  · rintro ⟨hv, h⟩
    generalize hd : slot.get d = given at hv
    cases items with
    | nil =>
      cases hv
      obtain ⟨hrest⟩ := h
      exact .absent (List.forall_mem_cons.mpr ⟨⟨hreq, hd⟩, hrest⟩)
    | cons item items =>
      obtain ⟨hv⟩ := hv
      exact .item hv hd h

theorem givenInOrder_three {x y z : Slot σ} (hx : x.required = false) (hy : y.required = false)
    (hz : z.required = false) :
    GivenInOrder d [x, y, z] items ↔
      items.length ≤ 3 ∧ Option.Rel x.Form items[0]? (x.get d) ∧
        Option.Rel y.Form items[1]? (y.get d) ∧ Option.Rel z.Form items[2]? (z.get d) := by
  have hend : items.tail.tail.tail = [] ↔ items.length ≤ 3 := by
    rw [← List.length_eq_zero_iff]
    simp only [List.length_tail]
    omega
  rw [givenInOrder_cons hx, givenInOrder_cons hy, givenInOrder_cons hz, givenInOrder_nil, hend]
  simp only [List.getElem?_tail]
  exact ⟨fun ⟨hx, hy, hz, hl⟩ => ⟨hl, hx, hy, hz⟩, fun ⟨hl, hx, hy, hz⟩ => ⟨hx, hy, hz, hl⟩⟩

theorem exists_filling {e : σ} (hg : GivenInOrder e slots items) (d : σ) :
    ∃ last, Filling slots d items last := by
  induction hg generalizing d with
  | absent h => exact ⟨d, .rest fun slot hs => (h slot hs).1⟩
  | @item slot _ _ v _ hv _ _ ih =>
    obtain ⟨last, hl⟩ := ih (slot.enter d v)
    exact ⟨last, .item hv hl⟩

theorem GivenInOrder.get_eq {e : σ} (hr : ∀ slot ∈ slots, Recognizes slot.read slot.Form)
    (hd : GivenInOrder d slots items) (he : GivenInOrder e slots items) :
    ∀ slot ∈ slots, slot.get d = slot.get e := by
  induction hd with
  | absent hd =>
    obtain he | - := he
    exact fun slot hs => (hd slot hs).2.trans (he slot hs).2.symm
  | @item slot slots _ v _ hv hget _ ih =>
    obtain - | ⟨hv', hget', hrest⟩ := he
    obtain ⟨hread, hreads⟩ := List.forall_mem_cons.mp hr
    refine List.forall_mem_cons.mpr ⟨?_, ih hreads hrest⟩
    rw [hget, hget', hread.unique hv hv']

/-- The items of an array leave a draft just when they give what is in its slots. -/
theorem Slotted.filling_iff (h : Slotted record slots) :
    Filling slots record.blank items last ↔ GivenInOrder last slots items := by
  refine ⟨h.filling_given (fun _ hs => hs) h.names h.blank, fun hg => ?_⟩
  obtain ⟨other, hf⟩ := exists_filling hg record.blank
  have hg' := h.filling_given (fun _ hs => hs) h.names h.blank hf
  have he : other = last := h.ext other last (hg'.get_eq h.recognizes hg)
  exact he ▸ hf

theorem findIdx?_required :
    (slots.map Slot.field).findIdx? Field.required = none ↔ ∀ slot ∈ slots, slot.required = false := by
  rw [List.findIdx?_eq_none_iff]
  simp [Slot.field, Field.make]

/-- The array ends, or the first of its items is one for the first slot. -/
theorem readFields_cons_sound {slot : Slot σ} {position : Nat}
    (hread : Recognizes slot.read slot.Form)
    (h : record.readFields ((slot :: slots).map Slot.field) position d s = .ok (last, r)) :
    (∃ w, Space w ∧ s = w ++ ']' :: r ∧ Filling (slot :: slots) d [] last) ∨
      ∃ u item v s', Between ']' [] (decide (position = 0)) s (.more (u ++ (item ++ s'))) ∧
        Space u ∧ slot.Form item v ∧
        record.readFields (slots.map Slot.field) (position + 1) (slot.enter d v) s' =
          .ok (last, r) := by
  obtain ⟨next, hnext, h⟩ := exists_of_bind_eq_ok h
  have hb := between_of_nextItem hnext
  cases next with
  | done t =>
    dsimp only at h
    split at h
    · cases h
    · rename_i hreq
      cases h
      rw [← List.map_cons] at hreq
      generalize decide (position = 0) = first at hb
      cases hb with
      | @done _ w _ hw => exact .inl ⟨w, hw, rfl, .rest (findIdx?_required.mp hreq)⟩
  | more t =>
    obtain ⟨⟨d', s'⟩, hvalue, hrest⟩ := exists_of_bind_eq_ok h
    obtain ⟨⟨v, _⟩, hv, he⟩ := exists_of_map_eq_ok hvalue
    cases he
    obtain ⟨u, item, rfl, hu, hform⟩ := hread.sound _ _ _ hv
    exact .inr ⟨u, item, v, s', hb, hu, hform, hrest⟩

theorem readFields_rest_sound {position : Nat}
    (hr : ∀ slot ∈ slots, Recognizes slot.read slot.Form)
    (h : record.readFields (slots.map Slot.field) (position + 1) d s = .ok (last, r)) :
    ∃ rest items, s = rest ++ ']' :: r ∧ Tail Eq rest items ∧ Filling slots d items last := by
  induction slots generalizing position d s with
  | nil =>
    obtain ⟨s', hend, h⟩ := exists_of_bind_eq_ok h
    cases h
    obtain ⟨w, hw, hs⟩ := endItems_sound hend
    exact ⟨w, [], hs, .done hw, .rest nofun⟩
  | cons slot slots ih =>
    obtain ⟨hread, hreads⟩ := List.forall_mem_cons.mp hr
    rcases readFields_cons_sound hread h with ⟨w, hw, hs, hfill⟩ | ⟨u, item, v, s', hb, hu, hform, h⟩
    · exact ⟨w, [], hs, .done hw, hfill⟩
    · obtain ⟨rest, items, rfl, htail, hfill⟩ := ih hreads h
      rw [decide_eq_false (Nat.succ_ne_zero position)] at hb
      cases hb with
      | @rest w v' _ hw hv' =>
        exact ⟨w ++ ',' :: ((v' ++ u) ++ (item ++ rest)), item :: items, by simp,
          .next hw (hv'.append hu) rfl htail, .item hform hfill⟩

theorem readFields_sound (hr : ∀ slot ∈ slots, Recognizes slot.read slot.Form)
    (h : record.readFields (slots.map Slot.field) 0 d s = .ok (last, r)) :
    ∃ text items, '[' :: s = text ++ r ∧ IsArray text items ∧ Filling slots d items last := by
  cases slots with
  | nil =>
    obtain ⟨s', hend, h⟩ := exists_of_bind_eq_ok h
    cases h
    obtain ⟨w, hw, hs⟩ := endItems_sound hend
    exact ⟨'[' :: (w ++ [']']), [], by simp [hs], .empty hw, .rest nofun⟩
  | cons slot slots =>
    obtain ⟨hread, hreads⟩ := List.forall_mem_cons.mp hr
    rcases readFields_cons_sound hread h with ⟨w, hw, hs, hfill⟩ | ⟨u, item, v, s', hb, hu, hform, h⟩
    · exact ⟨'[' :: (w ++ [']']), [], by simp [hs], .empty hw, hfill⟩
    · obtain ⟨rest, items, rfl, htail, hfill⟩ := readFields_rest_sound hreads h
      cases hb with
      | @first w _ hw =>
        exact ⟨'[' :: ((w ++ u) ++ (item ++ (rest ++ [']']))), item :: items, by simp,
          .pieces (hw.append hu) rfl htail, .item hform hfill⟩

/-- The array may end where no slot that is left needs a value. -/
theorem readFields_end {w : List Char} (hw : Space w)
    (hreq : ∀ slot ∈ slots, slot.required = false) (position : Nat) (r : List Char) :
    record.readFields (slots.map Slot.field) position d (w ++ ']' :: r) = .ok (d, r) := by
  cases slots with
  | nil =>
    simp only [List.map_nil, Record.readFields, endItems_complete hw, bind_ok]
    rfl
  | cons slot slots =>
    have hnone := findIdx?_required.mpr hreq
    rw [List.map_cons] at hnone
    simp only [List.map_cons, Record.readFields, nextItem_done _ hw, bind_ok, hnone]
    rfl

theorem readFields_tail {rest : List Char} (ht : Tail Eq rest items)
    (hr : ∀ slot ∈ slots, Recognizes slot.read slot.Form) (hf : Filling slots d items last)
    (position : Nat) (r : List Char) :
    record.readFields (slots.map Slot.field) (position + 1) d (rest ++ ']' :: r) = .ok (last, r) := by
  induction ht generalizing slots d position with
  | @done w hw =>
    obtain ⟨hreq⟩ := hf
    exact readFields_end hw hreq _ r
  | @next w v p rest item items hw hv hp htail ih =>
    subst hp
    cases hf with
    | @item slot slots _ _ _ value _ hform hf =>
      obtain ⟨hread, hreads⟩ := List.forall_mem_cons.mp hr
      have hend : Delimited (']' :: r) := .inr (.inl rfl)
      have hvalue := hread.complete p value _ hform (htail.endsNumber hend)
      have hrest := ih hreads hf (position + 1)
      obtain ⟨c, t, rfl, hc⟩ := hread.opens p value hform
      have hnext := nextItem_comma_space hv hc (t ++ (rest ++ ']' :: r))
      simp only [List.append_assoc, List.cons_append] at hvalue ⊢
      simp only [List.map_cons, Record.readFields, decide_eq_false (Nat.succ_ne_zero position),
        nextItem_space hw, hnext, bind_ok]
      simp only [Slot.field, Field.make, hvalue]
      exact hrest

theorem Slotted.readFields_complete (h : Slotted record slots) {text : List Char}
    (hi : IsArray text items) (hf : Filling slots d items last) :
    ∃ t, text = '[' :: t ∧ ∀ r, record.readFields record.fields 0 d (t ++ r) = .ok (last, r) := by
  rw [h.fields]
  cases hi with
  | @empty w hw =>
    refine ⟨w ++ [']'], rfl, fun r => ?_⟩
    rw [List.append_assoc, List.cons_append, List.nil_append]
    obtain ⟨hreq⟩ := hf
    exact readFields_end hw hreq _ r
  | @pieces w p rest item items hw hp ht =>
    subst hp
    refine ⟨w ++ (p ++ (rest ++ [']'])), rfl, fun r => ?_⟩
    have hreads := h.recognizes
    cases hf with
    | @item slot slots _ _ _ value _ hform hf =>
      obtain ⟨hread, hreads⟩ := List.forall_mem_cons.mp hreads
      have hend : Delimited (']' :: r) := .inr (.inl rfl)
      have hvalue := hread.complete p value _ hform (ht.endsNumber hend)
      have hrest := @readFields_tail _ _ record _ _ _ _ _ ht hreads hf 0 r
      obtain ⟨c, t, rfl, hc⟩ := hread.opens p value hform
      simp only [List.append_assoc, List.cons_append, List.nil_append] at hvalue ⊢
      simp only [List.map_cons, Record.readFields, decide_true, nextItem_space hw, nextItem_first hc,
        bind_ok]
      simp only [Slot.field, Field.make, hvalue]
      exact hrest

end

/-- The texts of a record: an object or an array that gives the slots of a draft, of which the record
can be made. -/
inductive RecordOf (record : Record σ α) (slots : List (Slot σ)) : List Char → α → Prop
  | object {text : List Char} {members : List (String × List Char)} {d : σ} {a : α}
      (h : IsObject IsName text members)
      (hg : ∀ slot ∈ slots, Given slot.Form slot.name members (slot.get d))
      (hu : ∀ m ∈ members, (∀ slot ∈ slots, slot.name ≠ m.1) → WellFormed m.2)
      (ha : record.finish d = .ok a) : RecordOf record slots text a
  | array {text : List Char} {items : List (List Char)} {d : σ} {a : α} (h : IsArray text items)
      (hg : GivenInOrder d slots items) (ha : record.finish d = .ok a) :
      RecordOf record slots text a

/-- A record of three fields that need no values, in either notation. -/
theorem recordOf_three_iff {record : Record σ α} {x y z : Slot σ} {text : List Char} {a : α}
    (hx : x.required = false) (hy : y.required = false) (hz : z.required = false) :
    RecordOf record [x, y, z] text a ↔
      ∃ d, record.finish d = .ok a ∧
        ((∃ members, IsObject IsName text members ∧ Given x.Form x.name members (x.get d) ∧
            Given y.Form y.name members (y.get d) ∧ Given z.Form z.name members (z.get d) ∧
            ∀ m ∈ members, m.1 ∉ [x.name, y.name, z.name] → WellFormed m.2) ∨
          ∃ items, IsArray text items ∧ items.length ≤ 3 ∧
            Option.Rel x.Form items[0]? (x.get d) ∧ Option.Rel y.Form items[1]? (y.get d) ∧
              Option.Rel z.Form items[2]? (z.get d)) := by
  have hknown (name : String) :
      (∀ slot ∈ [x, y, z], slot.name ≠ name) ↔ name ∉ [x.name, y.name, z.name] := by
    simp [@eq_comm _ name]
  constructor
  · rintro (@⟨members, d, _, h, hg, hu, ha⟩ | @⟨items, d, _, h, hg, ha⟩)
    · simp only [hknown] at hu
      simp only [List.forall_mem_cons] at hg
      obtain ⟨hgx, hgy, hgz, -⟩ := hg
      exact ⟨d, ha, .inl ⟨members, h, hgx, hgy, hgz, hu⟩⟩
    · exact ⟨d, ha, .inr ⟨items, h, (givenInOrder_three hx hy hz).mp hg⟩⟩
  · rintro ⟨d, ha, ⟨members, h, hgx, hgy, hgz, hu⟩ | ⟨items, h, hg⟩⟩
    · refine .object h ?_ ?_ ha
      · simp only [List.forall_mem_cons]
        exact ⟨hgx, hgy, hgz, List.forall_mem_nil _⟩
      · simpa only [hknown] using hu
    · exact .array h ((givenInOrder_three hx hy hz).mpr hg) ha

theorem Slotted.recognizes_read {record : Record σ α} {slots : List (Slot σ)}
    (h : Slotted record slots) : Recognizes record.read (RecordOf record slots) where
  space w s hw := by simp only [Record.read, hw.skipSpace_append]
  opens := by
    rintro _ _ (⟨h, -⟩ | ⟨h, -⟩)
    · obtain ⟨t, rfl⟩ := h.exists_cons
      exact ⟨_, _, rfl, rfl⟩
    · obtain ⟨t, rfl⟩ := h.exists_cons
      exact ⟨_, _, rfl, rfl⟩
  complete := by
    rintro _ a r (⟨ho, hg, hu, ha⟩ | ⟨hi, hg, ha⟩) -
    · obtain ⟨t, rfl, hread⟩ := readMembers_complete h.recognizesMember ho (h.run_iff.mpr ⟨hg, hu⟩)
      simp only [List.cons_append, Record.read, skipSpace_of_opensValue (c := '\x7b') rfl,
        Record.ofObject, hread, Record.conclude, ha]
    · obtain ⟨t, rfl, hread⟩ := h.readFields_complete hi (h.filling_iff.mpr hg)
      simp only [List.cons_append, Record.read, skipSpace_of_opensValue (c := '[') rfl,
        Record.ofArray, hread, Record.conclude, ha]
  sound s a r hs := by
    obtain ⟨w, hw, he⟩ := exists_skipSpace s
    rw [Record.read] at hs
    split at hs
    · rename_i hk
      rw [Record.ofObject] at hs
      split at hs
      · rename_i d t hread
        obtain ⟨text, members, ht, ho, hrun⟩ := readMembers_sound h.recognizesMember hread
        obtain ⟨hg, hu⟩ := h.run_iff.mp hrun
        rw [Record.conclude] at hs
        split at hs
        · rename_i ha
          cases hs
          rw [hk, ht] at he
          exact ⟨w, text, he, hw, .object ho hg hu ha⟩
        · cases hs
      · cases hs
    · rename_i hk
      rw [Record.ofArray] at hs
      split at hs
      · rename_i d t hread
        rw [h.fields] at hread
        obtain ⟨text, items, ht, hi, hfill⟩ := readFields_sound h.recognizes hread
        rw [Record.conclude] at hs
        split at hs
        · rename_i ha
          cases hs
          rw [hk, ht] at he
          exact ⟨w, text, he, hw, .array hi (h.filling_iff.mp hfill) ha⟩
        · cases hs
      · cases hs
    · cases hs

end OneShot.Json
