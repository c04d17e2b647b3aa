import OneShot.Proofs.Json.Grammar
import OneShot.Proofs.Json.Members

/-! Objects over several lines, as they are written to a file. The white space in front of a name or a
value is skipped, and a value ends with its line or at a comma. -/

namespace OneShot.Json

theorem skipSpace_newline (level : Nat) (s : List Char) :
    skipSpace (newline level ++ s) = skipSpace s := by
  have hspace : ∀ c ∈ newline level, isSpace c = true := by
    intro c hc
    rcases List.mem_cons.mp hc with rfl | hc
    · rfl
    · rw [List.eq_of_mem_replicate hc]
      rfl
  exact List.dropWhile_append_of_pos hspace

/-- What follows a value on its line: nothing, a comma, or the end of the line. -/
def LineEnd : List Char → Prop
  | [] => True
  | c :: _ => c = ',' ∨ c = '\n'

theorem LineEnd.endsNumber {r : List Char} (h : LineEnd r) : EndsNumber r := by
  intro c hc
  cases r with
  | nil => cases hc
  | cons d r =>
    cases hc
    rcases h with rfl | rfl <;> decide

/-- A text that a reader takes for a value up to the end of its line. White space in front of it does
not count. -/
structure Lined {α : Type} (read : Reader α) (text : List Char) (a : α) : Prop where
  read_skipSpace : ∀ s, read (skipSpace s) = read s
  read_append : ∀ r, LineEnd r → read (text ++ r) = .ok (a, r)

variable {α β σ : Type} {read : Reader α} {text : List Char} {a : α}

theorem Lined.read_space (h : Lined read text a) {r : List Char} (hr : LineEnd r) :
    read (' ' :: (text ++ r)) = .ok (a, r) := by
  have hs : skipSpace (' ' :: (text ++ r)) = skipSpace (text ++ r) := rfl
  rw [← h.read_skipSpace, hs, h.read_skipSpace, h.read_append r hr]

theorem Lined.whole_eq (h : Lined read text a) : whole read (String.ofList text) = .ok a := by
  have hr := h.read_append [] trivial
  rw [List.append_nil] at hr
  exact whole_of_ok hr

theorem lined_quote (s : String) : Lined readString (quote s) s where
  read_skipSpace t := by simp only [readString, readStringAs, skipSpace_skipSpace]
  read_append r _ := readStringAs_quote _ s r

theorem lined_none : Lined (readOption read) nullText none where
  read_skipSpace t := by simp only [readOption, skipSpace_skipSpace]
  read_append _ _ := rfl

theorem lined_some_quote (s : String) : Lined (readOption readString) (quote s) (some s) where
  read_skipSpace t := by simp only [readOption, skipSpace_skipSpace]
  read_append r _ := by
    have hk : skipSpace (quote s ++ r) = quote s ++ r := by
      rw [quote_eq, List.cons_append, skipSpace_of_opensValue rfl]
    have hread : readString (quote s ++ r) = .ok (s, r) := readStringAs_quote _ s r
    rw [readOption, hk]
    split
    · rename_i h
      cases h
    · rw [hread]
      rfl

/-! Members, one to a line. -/

theorem nextName_first_line (level : Nat) (s : List Char) :
    nextName true (newline level ++ '"' :: s) = .ok (.more s) := by
  rw [nextName, skipSpace_newline]
  rfl

theorem nextName_comma_line (level : Nat) (s : List Char) :
    nextName false (',' :: (newline level ++ '"' :: s)) = .ok (.more s) := by
  have hc : skipSpace (',' :: (newline level ++ '"' :: s)) = ',' :: (newline level ++ '"' :: s) := rfl
  have hq : skipSpace ('"' :: s) = '"' :: s := rfl
  simp [nextName, hc, skipSpace_newline, hq]

theorem nextName_end_line (first : Bool) (level : Nat) (r : List Char) :
    nextName first (newline level ++ '\x7d' :: r) = .ok (.done r) := by
  rw [nextName, skipSpace_newline]
  rfl

def memberLine (level : Nat) (m : String × List Char) : List Char :=
  newline (level + 1) ++ quote m.1 ++ ':' :: ' ' :: m.2

theorem objectLines_eq (level : Nat) (members : List (String × List Char)) :
    objectLines level members =
      '\x7b' :: (commas (members.map (memberLine level)) ++ (newline level ++ ['\x7d'])) := by
  rw [objectLines, List.append_assoc, List.cons_append]
  rfl

theorem memberLine_append (level : Nat) (name : String) (value r : List Char) :
    memberLine level (name, value) ++ r =
      newline (level + 1) ++ '"' :: (name.toList.flatMap escape ++ '"' :: ':' :: ' ' :: (value ++ r)) := by
  simp [memberLine, quote_eq]

/-- Members over several lines, each of which takes the reader from a state to the next. -/
inductive LineMembers (member : String → σ → Reader σ) : σ → List (String × List Char) → σ → Prop
  | nil {state : σ} : LineMembers member state [] state
  | cons {name : String} {value : List Char} {state next last : σ}
      {members : List (String × List Char)}
      (h : ∀ r, LineEnd r → member name state (':' :: ' ' :: (value ++ r)) = .ok (next, r))
      (hs : LineMembers member next members last) :
      LineMembers member state ((name, value) :: members) last

variable {member : String → σ → Reader σ} {state last : σ} {members : List (String × List Char)}

theorem lineEnd_rest (level : Nat) (ps : List (List Char)) (r : List Char) :
    LineEnd ((ps.flatMap fun q => ',' :: q) ++ (newline level ++ '\x7d' :: r)) := by
  cases ps with
  | nil => exact .inr rfl
  | cons q ps => exact .inl rfl

/-- The members of an object after the first one. -/
theorem readMembers_lines_rest (h : LineMembers member state members last) {n : Nat}
    (hn : members.length < n) (level : Nat) (r : List Char) :
    readMembers member n false state
      (((members.map (memberLine level)).flatMap fun q => ',' :: q) ++
        (newline level ++ '\x7d' :: r)) = .ok (last, r) := by
  induction h generalizing n with
  | nil =>
    obtain ⟨n, rfl⟩ := Nat.exists_eq_add_one_of_ne_zero (Nat.ne_of_gt hn)
    simp only [List.map_nil, List.flatMap_nil, List.nil_append, readMembers, nextName_end_line,
      bind_ok]
    rfl
  | @cons name value state next last members hm _ ih =>
    obtain ⟨n, rfl⟩ := Nat.exists_eq_add_one_of_ne_zero (Nat.ne_of_gt (Nat.zero_lt_of_lt hn))
    have hi := ih (n := n) (Nat.lt_of_succ_lt_succ hn)
    have hread := hm _ (lineEnd_rest level (members.map (memberLine level)) r)
    simp only [List.map_cons, List.flatMap_cons, List.cons_append, List.append_assoc,
      memberLine_append, readMembers, nextName_comma_line, bind_ok, scanString_quote,
      String.ofList_toList, hread, hi]

theorem readMembers_lines (h : LineMembers member state members last) {n : Nat}
    (hn : members.length < n) (level : Nat) (r : List Char) :
    readMembers member n true state
      (commas (members.map (memberLine level)) ++ (newline level ++ '\x7d' :: r)) =
        .ok (last, r) := by
  have hr := readMembers_lines_rest h hn level r
  obtain ⟨n, rfl⟩ := Nat.exists_eq_add_one_of_ne_zero (Nat.ne_of_gt (Nat.zero_lt_of_lt hn))
  cases h with
  | nil =>
    simp only [List.map_nil, commas, List.nil_append, readMembers, nextName_end_line, bind_ok]
    rfl
  | @cons name value _ next _ members =>
    rw [List.map_cons, ← comma_commas, commas_cons, List.cons_append, List.append_assoc,
      memberLine_append] at hr
    rw [List.map_cons, commas_cons, List.append_assoc, memberLine_append]
    -- The first member is read as one behind a comma is.
    simp only [readMembers, nextName_comma_line, nextName_first_line] at hr ⊢
    exact hr

theorem LineMembers.field {record : Record σ α} {name : String} {required : Bool}
    {get : σ → Option β} {enter : σ → β → σ} {readField : Reader β} {value : List Char} {b : β}
    (hf : record.fields.find? (fun f => f.name == name) =
      some (.make name required get enter readField))
    (hg : get state = none) (hb : Lined readField value b)
    (hs : LineMembers record.member (enter state b) members last) :
    LineMembers record.member state ((name, value) :: members) last := by
  refine .cons (fun r hr => ?_) hs
  simp only [Record.member, hf, Field.make, hg, Option.isSome_none, Bool.false_eq_true, if_false,
    scanColon_colon, bind_ok, hb.read_space hr]
  rfl

theorem Record.lined {record : Record σ α} {draft : σ} {level : Nat}
    (h : LineMembers record.member record.blank members draft)
    (hf : record.finish draft = .ok a) : Lined record.read (objectLines level members) a where
  read_skipSpace s := by simp only [Record.read, skipSpace_skipSpace]
  read_append r _ := by
    have hk : skipSpace (objectLines level members ++ r) =
        '\x7b' :: (commas (members.map (memberLine level)) ++ (newline level ++ '\x7d' :: r)) := by
      rw [objectLines_eq, List.cons_append, skipSpace_of_opensValue rfl, List.append_assoc,
        List.append_assoc]
      rfl
    have hn : members.length <
        (commas (members.map (memberLine level)) ++ (newline level ++ '\x7d' :: r)).length + 1 := by
      have hl := length_le_length_commas (members.map (memberLine level))
      simp only [List.length_append, List.length_cons, List.length_map] at hl ⊢
      omega
    simp only [Record.read, hk, Record.ofObject, readMembers_lines h hn, Record.conclude, hf]

end OneShot.Json
