import OneShot.Proofs.Json.Written

/-! Objects as they are written: every member takes the reader from one state to the next.
Dictionaries and records are read back from their members. -/

namespace OneShot.Json

variable {α β σ : Type} {read : Reader α}

theorem memberText_eq (name : String) (value : List Char) :
    memberText name value = '"' :: (name.toList.flatMap escape ++ '"' :: ':' :: value) := by
  simp [memberText, quote_eq]

theorem nextName_first (s : List Char) : nextName true ('"' :: s) = .ok (.more s) :=
  rfl

theorem nextName_comma (s : List Char) : nextName false (',' :: '"' :: s) = .ok (.more s) :=
  rfl

theorem newline_not_mem_memberText {name : String} {value : List Char} (h : '\n' ∉ value) :
    '\n' ∉ memberText name value := by
  simp [memberText, newline_not_mem_quote, h]

/-- Members of an object as they are written, each of which takes the reader from a state to the
next. -/
inductive Members (member : String → σ → Reader σ) : σ → List (List Char) → σ → Prop
  | nil {state : σ} : Members member state [] state
  | cons {name : String} {value : List Char} {state next last : σ} {ps : List (List Char)}
      (h : ∀ r, Delimited r → member name state (':' :: (value ++ r)) = .ok (next, r))
      (hl : '\n' ∉ value) (hs : Members member next ps last) :
      Members member state (memberText name value :: ps) last

variable {member : String → σ → Reader σ} {state last : σ} {ps : List (List Char)}

theorem Members.newline_not_mem (h : Members member state ps last) : ∀ p ∈ ps, '\n' ∉ p := by
  induction h with
  | nil => exact fun _ hp => absurd hp List.not_mem_nil
  | cons _ hl _ ih =>
    intro p hp
    rcases List.mem_cons.mp hp with rfl | hp
    · exact newline_not_mem_memberText hl
    · exact ih p hp

/-- The members of an object after the first one. -/
theorem readMembers_rest (h : Members member state ps last) {n : Nat} (hn : ps.length < n)
    (r : List Char) :
    readMembers member n false state ((ps.flatMap fun q => ',' :: q) ++ '\x7d' :: r) =
      .ok (last, r) := by
  induction h generalizing n with
  | nil =>
    obtain ⟨n, rfl⟩ := Nat.exists_eq_add_one_of_ne_zero (Nat.ne_of_gt hn)
    rfl
  | @cons name value state next last ps hm _ _ ih =>
    obtain ⟨n, rfl⟩ := Nat.exists_eq_add_one_of_ne_zero (Nat.ne_of_gt (Nat.zero_lt_of_lt hn))
    have hi := ih (n := n) (Nat.lt_of_succ_lt_succ hn)
    have hread := hm _ (delimited_rest ps (.inr rfl) r)
    simp only [List.flatMap_cons, memberText_eq, List.cons_append, List.append_assoc, readMembers,
      nextName_comma, bind_ok, scanString_quote, String.ofList_toList, hread, hi]

/-- What every member keeps holds when the object has been read. -/
theorem readMembers_invariant {p : σ → Prop}
    (hm : ∀ {name state s next r}, p state → member name state s = .ok (next, r) → p next)
    {n : Nat} {first : Bool} {s r : List Char} (hp : p state)
    (h : readMembers member n first state s = .ok (last, r)) : p last := by
  induction n generalizing first state s with
  | zero => cases h
  | succ n ih =>
    obtain ⟨next, -, h⟩ := exists_of_bind_eq_ok h
    cases next with
    | done => cases h; exact hp
    | more s =>
      obtain ⟨⟨name, s⟩, -, h⟩ := exists_of_bind_eq_ok h
      obtain ⟨⟨state, s⟩, hs, h⟩ := exists_of_bind_eq_ok h
      exact ih (hm hp hs) h

/-- The first member is read as one behind a comma would be. -/
theorem readMembers_first (n : Nat) (s : List Char) :
    readMembers member n true state ('"' :: s) =
      readMembers member n false state (',' :: '"' :: s) := by
  cases n with
  | zero => rfl
  | succ n => simp only [readMembers, nextName_first, nextName_comma]

theorem readMembers_written (h : Members member state ps last) {n : Nat} (hn : ps.length < n)
    (r : List Char) :
    readMembers member n true state (commas ps ++ '\x7d' :: r) = .ok (last, r) := by
  have hr := readMembers_rest h hn r
  cases h with
  | nil =>
    obtain ⟨n, rfl⟩ := Nat.exists_eq_add_one_of_ne_zero (Nat.ne_of_gt hn)
    rfl
  | @cons name value _ _ _ ps =>
    rw [← comma_commas, commas_cons, memberText_eq] at hr
    rw [commas_cons, memberText_eq, List.cons_append, List.cons_append, readMembers_first]
    exact hr

theorem skipSpace_objectText (ps : List (List Char)) (r : List Char) :
    skipSpace (objectText ps ++ r) = '\x7b' :: (commas ps ++ '\x7d' :: r) := by
  simp only [objectText, List.cons_append, List.append_assoc]
  rfl

theorem newline_not_mem_objectText (h : ∀ p ∈ ps, '\n' ∉ p) : '\n' ∉ objectText ps := by
  simp [objectText, newline_not_mem_commas h]

theorem length_lt_length_object (ps : List (List Char)) (r : List Char) :
    ps.length < (commas ps ++ '\x7d' :: r).length + 1 := by
  have hl := length_le_length_commas ps
  simp only [List.length_append, List.length_cons]
  omega

theorem scanColon_colon (s : List Char) : scanColon (':' :: s) = .ok s :=
  rfl

/-! Dictionaries. -/

theorem members_of_entries {write : α → List Char} {entries : List (String × α)}
    (h : ∀ e ∈ entries, Written read (write e.2) e.2) (d : Dictionary α) :
    Members (fun name d s => do
        let s ← scanColon s
        let (a, s) ← read s
        return (d.insert name a, s)) d
      (entries.map fun e => memberText e.1 (write e.2))
      (entries.foldl (fun d e => d.insert e.1 e.2) d) := by
  induction entries generalizing d with
  | nil => exact .nil
  | cons e entries ih =>
    have he := h e List.mem_cons_self
    refine .cons (fun r hr => ?_) he.oneLine (ih (fun f hf => h f (List.mem_cons_of_mem _ hf)) _)
    rw [scanColon_colon, bind_ok, he.read_append r hr]
    rfl

theorem Written.dictionary {write : α → List Char} {d : Dictionary α}
    (h : ∀ e ∈ d.entries, Written read (write e.2) e.2) :
    Written (readMap read) (objectText (d.entries.map fun e => memberText e.1 (write e.2))) d where
  opens := ⟨'\x7b', _, rfl, rfl⟩
  oneLine := newline_not_mem_objectText (members_of_entries h .empty).newline_not_mem
  read_append r _ := by
    have hm := members_of_entries h .empty
    rw [d.foldl_insert_entries] at hm
    simp only [readMap, skipSpace_objectText]
    exact readMembers_written hm (length_lt_length_object _ r) r

/-! Records. -/

/-- A member for a field that has not been filled yet. -/
theorem Members.field {record : Record σ α} {name : String} {required : Bool} {get : σ → Option β}
    {enter : σ → β → σ} {readField : Reader β} {value : List Char} {b : β}
    (hf : record.fields.find? (fun f => f.name == name) =
      some (.make name required get enter readField))
    (hg : get state = none) (hb : Written readField value b)
    (hs : Members record.member (enter state b) ps last) :
    Members record.member state (memberText name value :: ps) last := by
  refine .cons (fun r hr => ?_) hb.oneLine hs
  simp only [Record.member, hf, Field.make, hg, Option.isSome_none, Bool.false_eq_true, if_false,
    scanColon_colon, bind_ok, hb.read_append r hr]
  rfl

theorem Record.written {record : Record σ α} {a : α} {ps : List (List Char)} {draft : σ}
    (h : Members record.member record.blank ps draft) (hf : record.finish draft = .ok a) :
    Written record.read (objectText ps) a where
  opens := ⟨'\x7b', _, rfl, rfl⟩
  oneLine := newline_not_mem_objectText h.newline_not_mem
  read_append r _ := by
    simp only [Record.read, skipSpace_objectText, Record.ofObject,
      readMembers_written h (length_lt_length_object ps r), Record.conclude, hf]

end OneShot.Json
