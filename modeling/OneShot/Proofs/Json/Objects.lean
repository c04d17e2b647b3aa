import OneShot.Proofs.Json.Collections

/-! Objects whose members are recognized. Each member takes a state to the next by its name and the text
of its value; a dictionary has the last value of every name. -/

namespace OneShot.Json

variable {α σ : Type} {s r rest : List Char} {n : Nat}

/-- The text between the quotes of a name and what it spells. -/
def IsName (body : List Char) (name : String) : Prop :=
  Spells body name.toList

/-- Members that take a state to the next one after the other. -/
inductive Run (Step : String → σ → List Char → σ → Prop) : σ → List (String × List Char) → σ → Prop
  | nil {d : σ} : Run Step d [] d
  | cons {name : String} {value : List Char} {d e last : σ} {members : List (String × List Char)}
      (h : Step name d value e) (hr : Run Step e members last) :
      Run Step d ((name, value) :: members) last

structure RecognizesMember (member : String → σ → Reader σ)
    (Step : String → σ → List Char → σ → Prop) : Prop where
  complete : ∀ name d value e w v r, Step name d value e → Space w → Space v → EndsNumber r →
    member name d (w ++ ':' :: (v ++ (value ++ r))) = .ok (e, r)
  sound : ∀ name d s e r, member name d s = .ok (e, r) →
    ∃ w v value, s = w ++ ':' :: (v ++ (value ++ r)) ∧ Space w ∧ Space v ∧ Step name d value e

theorem scanColon_sound (h : scanColon s = .ok r) : ∃ w, Space w ∧ s = w ++ ':' :: r := by
  obtain ⟨w, hw, hs⟩ := exists_skipSpace s
  rw [scanColon] at h
  split at h
  · cases h
  · rename_i hk
    cases h
    rw [hk] at hs
    exact ⟨w, hw, hs⟩
  · cases h

theorem scanColon_complete {w : List Char} (hw : Space w) (s : List Char) :
    scanColon (w ++ ':' :: s) = .ok s := by
  have hk : skipSpace (w ++ ':' :: s) = ':' :: s := hw.skipSpace_append _
  simp only [scanColon, hk]

section

variable {member : String → σ → Reader σ} {Step : String → σ → List Char → σ → Prop} {d last : σ}
  {members : List (String × List Char)}

/-- Members up to the end of their object. -/
def MembersEnd (Step : String → σ → List Char → σ → Prop) (d : σ) (s : List Char) (last : σ)
    (r : List Char) : Prop :=
  ∃ rest members, s = rest ++ '\x7d' :: r ∧ Tail (Member IsName) rest members ∧
    Run Step d members last

/-- The first of several members is read from behind its quote. -/
theorem exists_member (hm : RecognizesMember member Step) {t : List Char}
    (hrest : ∀ e s, readMembers member n false e s = .ok (last, r) → MembersEnd Step e s last r)
    (h : (do
      let (cs, s) ← scanString t
      let (e, s) ← member (String.ofList cs) d s
      readMembers member n false e s) = .ok (last, r)) :
    ∃ p m rest members, '"' :: t = p ++ (rest ++ '\x7d' :: r) ∧ Member IsName p m ∧
      Tail (Member IsName) rest members ∧ Run Step d (m :: members) last := by
  obtain ⟨⟨cs, s₁⟩, hname, h⟩ := exists_of_bind_eq_ok h
  obtain ⟨⟨e, s₂⟩, hmember, h⟩ := exists_of_bind_eq_ok h
  obtain ⟨body, ht, hbody⟩ := spells_of_scanString hname
  obtain ⟨u, u', value, hs₁, hu, hu', hstep⟩ := hm.sound _ _ _ _ _ hmember
  obtain ⟨rest, members, hs₂, htail, hrun⟩ := hrest _ _ h
  have hn : IsName body (String.ofList cs) := by rwa [IsName, String.toList_ofList]
  exact ⟨'"' :: (body ++ '"' :: (u ++ ':' :: (u' ++ value))), _, rest, members,
    by simp [ht, hs₁, hs₂], .mk hn hu hu', htail, .cons hstep hrun⟩

theorem readMembers_rest_sound (hm : RecognizesMember member Step)
    (h : readMembers member n false d s = .ok (last, r)) : MembersEnd Step d s last r := by
  induction n generalizing s d with
  | zero => cases h
  | succ n ih =>
    obtain ⟨next, hnext, h⟩ := exists_of_bind_eq_ok h
    cases between_of_nextName hnext with
    | @done _ w _ hw =>
      cases h
      exact ⟨w, [], rfl, .done hw, .nil⟩
    | @rest w v t hw hv =>
      obtain ⟨p, m, rest, members, ht, hp, htail, hrun⟩ := exists_member hm (fun _ _ => ih) h
      exact ⟨w ++ ',' :: (v ++ (p ++ rest)), m :: members, by simp [ht], .next hw hv hp htail, hrun⟩

theorem readMembers_sound (hm : RecognizesMember member Step)
    (h : readMembers member n true d s = .ok (last, r)) :
    ∃ text members, '\x7b' :: s = text ++ r ∧ IsObject IsName text members ∧
      Run Step d members last := by
  cases n with
  | zero => cases h
  | succ n =>
    obtain ⟨next, hnext, h⟩ := exists_of_bind_eq_ok h
    cases between_of_nextName hnext with
    | @done _ w _ hw =>
      cases h
      exact ⟨'\x7b' :: (w ++ ['\x7d']), [], by simp, .empty hw, .nil⟩
    | @first w t hw =>
      obtain ⟨p, m, rest, members, ht, hp, htail, hrun⟩ :=
        exists_member hm (fun _ _ => readMembers_rest_sound hm) h
      exact ⟨'\x7b' :: (w ++ (p ++ (rest ++ ['\x7d']))), m :: members, by simp [ht],
        .pieces hw hp htail, hrun⟩

theorem readMembers_space {w : List Char} (hw : Space w) (n : Nat) (first : Bool) (d : σ)
    (s : List Char) : readMembers member n first d (w ++ s) = readMembers member n first d s := by
  cases n with
  | zero => rfl
  | succ n => simp only [readMembers, nextName, hw.skipSpace_append]

theorem readMembers_tail (hm : RecognizesMember member Step)
    (ht : Tail (Member IsName) rest members) (hr : Run Step d members last)
    (hn : members.length < n) (r : List Char) :
    readMembers member n false d (rest ++ '\x7d' :: r) = .ok (last, r) := by
  induction ht generalizing d n with
  | @done w hw =>
    obtain ⟨n, rfl⟩ := Nat.exists_eq_add_one_of_ne_zero (Nat.ne_of_gt hn)
    cases hr
    simp only [readMembers, nextName_done false hw, bind_ok]
    rfl
  | @next w v p rest m members hw hv hp htail ih =>
    obtain ⟨n, rfl⟩ := Nat.exists_eq_add_one_of_ne_zero (Nat.ne_of_gt (Nat.zero_lt_of_lt hn))
    obtain @⟨body, u, u', value, name, hbody, hu, hu'⟩ := hp
    cases hr with
    | @cons _ _ _ e _ _ hstep hrun =>
      have hend : Delimited ('\x7d' :: r) := .inr (.inr rfl)
      have hmember := hm.complete name d value e u u' _ hstep hu hu' (htail.endsNumber hend)
      have hname := scanString_of_spells hbody (u ++ ':' :: (u' ++ (value ++ (rest ++ '\x7d' :: r))))
      have hnext := nextName_rest hw hv
        (body ++ '"' :: (u ++ ':' :: (u' ++ (value ++ (rest ++ '\x7d' :: r)))))
      have hrest := ih hrun (Nat.lt_of_succ_lt_succ hn)
      simp only [List.append_assoc, List.cons_append, readMembers, hnext, bind_ok, hname,
        String.ofList_toList, hmember, hrest]

/-- The members of an object take its state to the last one. -/
theorem readMembers_complete {text : List Char} (hm : RecognizesMember member Step)
    (h : IsObject IsName text members) (hr : Run Step d members last) :
    ∃ t, text = '\x7b' :: t ∧ ∀ r,
      readMembers member ((t ++ r).length + 1) true d (t ++ r) = .ok (last, r) := by
  cases h with
  | @empty w hw =>
    cases hr
    refine ⟨w ++ ['\x7d'], rfl, fun r => ?_⟩
    simp only [List.append_assoc, List.cons_append, List.nil_append, readMembers,
      nextName_done true hw, bind_ok]
    rfl
  | @pieces w p rest m members hw hp ht =>
    refine ⟨w ++ (p ++ (rest ++ ['\x7d'])), rfl, fun r => ?_⟩
    have htail : Tail (Member IsName) ([] ++ ',' :: ([] ++ (p ++ rest))) (m :: members) :=
      .next space_nil space_nil hp ht
    have hlen := htail.length_le
    have hread := readMembers_tail (n := (w ++ (p ++ (rest ++ '\x7d' :: r))).length + 1) hm htail hr
      (by
        simp only [List.nil_append, List.length_cons, List.length_append] at hlen ⊢
        omega) r
    obtain ⟨q, rfl⟩ := hp.opens
    simp only [List.nil_append, List.cons_append, List.append_assoc] at hread ⊢
    rw [readMembers_space hw, readMembers_first]
    exact hread

/-- The members of an object, read into a state. -/
def readObject (member : String → σ → Reader σ) (first : σ) : Reader σ := fun s =>
  match skipSpace s with
  | '\x7b' :: s => readMembers member (s.length + 1) true first s
  | s => .error (mismatch "a map" s)

theorem recognizes_readObject (hm : RecognizesMember member Step) (first : σ) :
    Recognizes (readObject member first) fun text last =>
      ∃ members, IsObject IsName text members ∧ Run Step first members last where
  space w s hw := by simp only [readObject, hw.skipSpace_append]
  opens := by
    rintro _ _ ⟨_, h, -⟩
    obtain ⟨t, rfl⟩ := h.exists_cons
    exact ⟨_, _, rfl, rfl⟩
  complete := by
    rintro text last r ⟨members, h, hrun⟩ -
    obtain ⟨t, rfl, hread⟩ := readMembers_complete hm h hrun
    simp only [List.cons_append, readObject, skipSpace_of_opensValue (c := '\x7b') rfl]
    exact hread r
  sound s last r h := by
    obtain ⟨w, hw, hs⟩ := exists_skipSpace s
    rw [readObject] at h
    split at h
    · rename_i hk
      obtain ⟨text, members, he, ho, hrun⟩ := readMembers_sound hm h
      rw [hk, he] at hs
      exact ⟨w, text, hs, hw, members, ho, hrun⟩
    · cases h

end

/-! The members as they stand. -/

/-- An object with the names of its members and the texts of their values. -/
def HasMembers (text : List Char) (members : List (String × List Char)) : Prop :=
  IsObject IsName text members ∧ ∀ m ∈ members, WellFormed m.2

theorem member_memberText (name : String) (value : List Char) :
    Member IsName (memberText name value) (name, value) := by
  have hn : IsName (name.toList.flatMap escape) name := spells_flatMap_escape name.toList
  rw [memberText_eq]
  exact .mk hn space_nil space_nil

theorem tail_flatMap (members : List (String × List Char)) :
    Tail (Member IsName) ((members.map fun m => memberText m.1 m.2).flatMap fun p => ',' :: p)
      members := by
  induction members with
  | nil => exact .done space_nil
  | cons m members ih =>
    rw [List.map_cons, List.flatMap_cons]
    exact .next space_nil space_nil (member_memberText m.1 m.2) ih

/-- The written form of members is an object that has them. -/
theorem isObject_objectText (members : List (String × List Char)) :
    IsObject IsName (objectText (members.map fun m => memberText m.1 m.2)) members := by
  cases members with
  | nil => exact .empty space_nil
  | cons m members =>
    rw [List.map_cons, objectText, commas_cons, List.cons_append, List.append_assoc]
    exact .pieces space_nil (member_memberText m.1 m.2) (tail_flatMap members)

def readRawMember (name : String) (members : List (String × List Char)) :
    Reader (List (String × List Char)) := fun s => do
  let s ← scanColon s
  let (value, s) ← readRaw s
  return (members ++ [(name, value)], s)

theorem recognizesMember_raw :
    RecognizesMember readRawMember fun name members value all =>
      WellFormed value ∧ all = members ++ [(name, value)] where
  complete := by
    rintro name members value _ w v r ⟨hvalue, rfl⟩ hw hv hr
    rw [readRawMember, scanColon_complete hw, bind_ok, recognizes_raw.read_append ⟨hvalue, rfl⟩ hv hr]
    rfl
  sound name members s _ r h := by
    obtain ⟨s₁, hcolon, h⟩ := exists_of_bind_eq_ok h
    obtain ⟨⟨value, s₂⟩, hraw, h⟩ := exists_of_bind_eq_ok h
    cases h
    obtain ⟨w, hw, hs⟩ := scanColon_sound hcolon
    obtain ⟨v, text, hs₁, hv, ht, rfl⟩ := recognizes_raw.sound _ _ _ hraw
    exact ⟨w, v, value, by rw [hs, hs₁], hw, hv, ht, rfl⟩

theorem run_raw_iff {first members last : List (String × List Char)} :
    Run (fun name members value all => WellFormed value ∧ all = members ++ [(name, value)])
        first members last ↔
      (∀ m ∈ members, WellFormed m.2) ∧ last = first ++ members := by
  induction members generalizing first with
  | nil =>
    constructor
    · rintro ⟨⟩
      exact ⟨nofun, (List.append_nil _).symm⟩
    · rintro ⟨-, rfl⟩
      rw [List.append_nil]
      exact .nil
  | cons m members ih =>
    obtain ⟨name, value⟩ := m
    constructor
    · rintro (_ | ⟨⟨hvalue, hall⟩, hr⟩)
      obtain ⟨hm, hlast⟩ := ih.mp hr
      rw [hall, List.append_assoc] at hlast
      exact ⟨List.forall_mem_cons.mpr ⟨hvalue, hm⟩, hlast⟩
    · rintro ⟨hm, rfl⟩
      obtain ⟨hvalue, hm⟩ := List.forall_mem_cons.mp hm
      exact .cons ⟨hvalue, rfl⟩ (ih.mpr ⟨hm, List.append_cons _ _ members⟩)

theorem recognizes_members : Recognizes (readObject readRawMember []) HasMembers := by
  refine (recognizes_readObject recognizesMember_raw []).congr fun text members => ?_
  constructor
  · rintro ⟨members', h, hr⟩
    obtain ⟨hm, rfl⟩ := run_raw_iff.mp hr
    exact ⟨h, hm⟩
  · rintro ⟨h, hm⟩
    exact ⟨members, h, run_raw_iff.mpr ⟨hm, rfl⟩⟩

/-! Dictionaries. -/

def IsEntry (Form : List Char → α → Prop) (m : String × List Char) (e : String × α) : Prop :=
  m.1 = e.1 ∧ Form m.2 e.2

/-- An object and the dictionary of its members. A name may occur several times. -/
def DictionaryOf (Form : List Char → α → Prop) (text : List Char) (d : Dictionary α) : Prop :=
  ∃ members entries, IsObject IsName text members ∧
    List.Forall₂ (IsEntry Form) members entries ∧
      ∀ name, d.find? name = Dictionary.last? name entries

section

variable {value : Reader α} {Form : List Char → α → Prop}

theorem recognizesMember_insert (hv : Recognizes value Form) :
    RecognizesMember (fun name d s => do
        let s ← scanColon s
        let (a, s) ← value s
        return (Dictionary.insert d name a, s))
      fun name d text e => ∃ a, Form text a ∧ e = d.insert name a where
  complete := by
    rintro name d text _ w v r ⟨a, ha, rfl⟩ hw hspace hr
    rw [scanColon_complete hw, bind_ok, hv.read_append ha hspace hr]
    rfl
  sound name d s e r h := by
    obtain ⟨s₁, hcolon, h⟩ := exists_of_bind_eq_ok h
    obtain ⟨⟨a, s₂⟩, ha, h⟩ := exists_of_bind_eq_ok h
    cases h
    obtain ⟨w, hw, hs⟩ := scanColon_sound hcolon
    obtain ⟨v, text, hs₁, hspace, ht⟩ := hv.sound _ _ _ ha
    exact ⟨w, v, text, by rw [hs, hs₁], hw, hspace, a, ht, rfl⟩

/-- Members are put in one after the other. -/
theorem run_insert_iff {d last : Dictionary α} {members : List (String × List Char)} :
    Run (fun name d text e => ∃ a, Form text a ∧ e = d.insert name a) d members last ↔
      ∃ entries, List.Forall₂ (IsEntry Form) members entries ∧
        last = entries.foldl (fun d e => d.insert e.1 e.2) d := by
  constructor
  · intro h
    induction h with
    | nil => exact ⟨[], .nil, rfl⟩
    | @cons name text d _ last members hstep hr ih =>
      obtain ⟨a, ha, rfl⟩ := hstep
      obtain ⟨entries, hf, hl⟩ := ih
      exact ⟨(name, a) :: entries, .cons ⟨rfl, ha⟩ hf, hl⟩
  · rintro ⟨entries, hf, hl⟩
    induction hf generalizing d with
    | nil => exact hl ▸ .nil
    | @cons m e members entries hm hf ih =>
      obtain ⟨name, text⟩ := m
      obtain ⟨rfl, ha⟩ := hm
      exact .cons ⟨_, ha, rfl⟩ (ih hl)

theorem Recognizes.dictionary (hv : Recognizes value Form) :
    Recognizes (readMap value) (DictionaryOf Form) := by
  refine (recognizes_readObject (recognizesMember_insert hv) .empty).congr fun text d => ?_
  have hfind (entries : List (String × α)) (name : String) :
      (entries.foldl (fun d e => d.insert e.1 e.2) Dictionary.empty).find? name =
        Dictionary.last? name entries := by
    rw [Dictionary.find?_foldl_insert, show Dictionary.empty.find? name = none from rfl,
      Option.or_none]
  constructor
  · rintro ⟨members, h, hrun⟩
    obtain ⟨entries, hf, rfl⟩ := run_insert_iff.mp hrun
    exact ⟨members, entries, h, hf, hfind entries⟩
  · rintro ⟨members, entries, h, hf, hd⟩
    have hlast := Dictionary.eq_of_find? fun name => (hd name).trans (hfind entries name).symm
    exact ⟨members, h, run_insert_iff.mpr ⟨entries, hf, hlast⟩⟩

end

end OneShot.Json
