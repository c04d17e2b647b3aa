import Mathlib.Logic.Basic
import OneShot.Proofs.Json.Value

/-! What the reader makes of the text of a value without reals. The value comes back if it is not
nested too deep and no object in it begins with the name that stands for embedded text; an object
that does never comes back. -/

namespace OneShot.Json

/-- What a reader makes of the text of `a` before `r`. Text that is plain and not nested too deep is
read as `a`; if it is too deep it is refused for that, and if it is not plain anything else may come
of it. -/
inductive Reading {α γ : Type} (make : α → γ) (a : α) (plain fits : Prop) (r : List Char) :
    Except Stop (γ × List Char) → Prop
  | same (hp : plain) (hf : fits) : Reading make a plain fits r (.ok (make a, r))
  | other (hp : ¬ plain) {b : α} (hb : b ≠ a) : Reading make a plain fits r (.ok (make b, r))
  | deep (hf : ¬ fits) {stop : Stop} (hs : stop.fault = .tooDeep) :
      Reading make a plain fits r (.error stop)
  | stopped (hp : ¬ plain) {stop : Stop} : Reading make a plain fits r (.error stop)

namespace Reading

variable {α β γ δ : Type} {make : α → γ} {a : α} {b : β} {P F Q G : Prop} {r s : List Char}

theorem transport {x : Except Stop (γ × List Char)} (h : Reading make a P F r x) {f : α → β}
    (hf : ∀ a a', f a = f a' → a = a') (make' : β → γ) (hm : ∀ a, make' (f a) = make a) :
    Reading make' (f a) P F r x := by
  cases h with
  | same hp hfit => exact hm a ▸ .same hp hfit
  | @other hp a' hb => exact hm a' ▸ .other hp fun he => hb (hf _ _ he)
  | deep hfit hs => exact .deep hfit hs
  | stopped hp => exact .stopped hp

theorem map {x : Except Stop (γ × List Char)} (h : Reading make a P F r x) (f : γ → δ) :
    Reading (fun a => f (make a)) a P F r (do let p ← x; return (f p.1, p.2)) := by
  cases h with
  | same hp hfit => exact .same hp hfit
  | other hp hb => exact .other hp hb
  | deep hfit hs => exact .deep hfit hs
  | stopped hp => exact .stopped hp

theorem congr {x : Except Stop (γ × List Char)} (h : Reading make a P F r x) (hP : P ↔ Q)
    (hF : F ↔ G) : Reading make a Q G r x := by
  rwa [← propext hP, ← propext hF]

/-- Two texts are read one after the other. -/
theorem bind {f : α → β → γ} {x : Except Stop (α × List Char)}
    {y : α × List Char → Except Stop (γ × List Char)} (hx : Reading id a P F s x)
    (hy : ∀ a', Reading (f a') b Q G r (y (a', s))) :
    Reading (fun c : α × β => f c.1 c.2) (a, b) (P ∧ Q) (F ∧ G) r (x >>= y) := by
  cases hx with
  | same hp hf =>
    have h := hy a
    rw [id, bind_ok]
    generalize y (a, s) = z at h ⊢
    cases h with
    | same hq hg => exact .same (a := (a, b)) ⟨hp, hq⟩ ⟨hf, hg⟩
    | @other hq b' hb => exact .other (b := (a, b')) (fun h => hq h.2) fun he => hb (Prod.ext_iff.mp he).2
    | deep hg hs => exact .deep (fun h => hg h.2) hs
    | stopped hq => exact .stopped fun h => hq h.2
  | @other hp a' ha =>
    have h := hy a'
    rw [id, bind_ok]
    generalize y (a', s) = z at h ⊢
    have hn : ∀ b', (a', b') ≠ (a, b) := fun b' he => ha (Prod.ext_iff.mp he).1
    cases h with
    | same hq hg => exact .other (b := (a', b)) (fun h => hp h.1) (hn b)
    | @other hq b' hb => exact .other (b := (a', b')) (fun h => hp h.1) (hn b')
    | deep hg hs => exact .deep (fun h => hg h.2) hs
    | stopped hq => exact .stopped fun h => hq h.2
  | deep hf hs => exact .deep (fun h => hf h.1) hs
  | stopped hp => exact .stopped fun h => hp h.1

end Reading

/-- How the text of a value is read, if `d` levels of nesting are left. -/
def ReadsAt (read : Reader Value) (d : Nat) (v : Value) : Prop :=
  ∀ r, Delimited r →
    Reading id v (v.Everywhere Value.Plain) (v.depth < d) r (read (v.write ++ r))

theorem reading_items_rest {read : Reader Value} {d k : Nat} {items : List Value}
    (h : ∀ v ∈ items, ReadsAt read d v) (ho : ∀ v ∈ items, Value.NotReal v)
    (hk : items.length < k) (r : List Char) :
    Reading id items (∀ v ∈ items, v.Everywhere Value.Plain) (∀ v ∈ items, v.depth < d) r
      (readItems read k false
        (((items.map Value.write).flatMap fun q => ',' :: q) ++ ']' :: r)) := by
  induction items generalizing k with
  | nil =>
    obtain ⟨k, rfl⟩ := Nat.exists_eq_add_one_of_ne_zero (Nat.ne_of_gt hk)
    exact .same (fun v hv => absurd hv List.not_mem_nil) fun v hv => absurd hv List.not_mem_nil
  | cons v vs ih =>
    obtain ⟨k, rfl⟩ := Nat.exists_eq_add_one_of_ne_zero (Nat.ne_of_gt (Nat.zero_lt_of_lt hk))
    have hi := ih (k := k) (fun w hw => h w (List.mem_cons_of_mem _ hw))
      (fun w hw => ho w (List.mem_cons_of_mem _ hw)) (Nat.lt_of_succ_lt_succ hk)
    have hv := h v List.mem_cons_self _ (delimited_rest (vs.map Value.write) (.inl rfl) r)
    obtain ⟨c, s, hs, hc⟩ := Value.opens_write (ho v List.mem_cons_self)
    have hb := hv.bind (f := fun v vs => v :: vs)
      (y := fun p => do
        let q ← readItems read k false p.2
        return (p.1 :: q.1, q.2))
      fun v' => hi.map fun vs => v' :: vs
    have ht := hb.transport (f := fun p => p.1 :: p.2) (by simp [Prod.ext_iff]) id fun _ => rfl
    simp only [List.map_cons, List.flatMap_cons, List.cons_append, List.append_assoc]
    rw [hs, List.cons_append] at ht ⊢
    simp only [readItems, nextItem_comma hc, bind_ok]
    exact ht.congr (by simp) (by simp)

theorem reading_items {read : Reader Value} {d k : Nat} {items : List Value}
    (h : ∀ v ∈ items, ReadsAt read d v) (ho : ∀ v ∈ items, Value.NotReal v)
    (hk : items.length < k) (r : List Char) :
    Reading id items (∀ v ∈ items, v.Everywhere Value.Plain) (∀ v ∈ items, v.depth < d) r
      (readItems read k true (commas (items.map Value.write) ++ ']' :: r)) := by
  have hr := reading_items_rest h ho hk r
  cases items with
  | nil =>
    obtain ⟨k, rfl⟩ := Nat.exists_eq_add_one_of_ne_zero (Nat.ne_of_gt hk)
    exact hr
  | cons v vs =>
    obtain ⟨c, s, hs, hc⟩ := Value.opens_write (ho v List.mem_cons_self)
    rw [List.map_cons, ← comma_commas, commas_cons, hs, List.cons_append, List.cons_append] at hr
    rw [List.map_cons, commas_cons, hs, List.cons_append, List.cons_append, readItems_first hc]
    exact hr

/-- Reads a member of an object and puts it among those already read. -/
def readMember (read : Reader Value) (name : String) (members : List (String × Value)) :
    Reader (List (String × Value)) := fun s => do
  let s ← scanColon s
  let (v, s) ← read s
  return (insertSorted name v members, s)

theorem reading_members_rest {read : Reader Value} {d k : Nat} (front : List (String × Value))
    {members : List (String × Value)} (h : ∀ m ∈ members, ReadsAt read d m.2)
    (hs : ((front ++ members).map Prod.fst).Pairwise (· < ·)) (hk : members.length < k)
    (r : List Char) :
    Reading (fun ms => front ++ ms) members (∀ m ∈ members, m.2.Everywhere Value.Plain)
      (∀ m ∈ members, m.2.depth < d) r
      (readMembers (readMember read) k false front
        (((members.map fun m => memberText m.1 m.2.write).flatMap fun q => ',' :: q) ++
          '\x7d' :: r)) := by
  induction members generalizing k front with
  | nil =>
    obtain ⟨k, rfl⟩ := Nat.exists_eq_add_one_of_ne_zero (Nat.ne_of_gt hk)
    have hr : readMembers (readMember read) (k + 1) false front ('\x7d' :: r) =
        .ok (front ++ [], r) := by
      rw [List.append_nil]
      rfl
    rw [List.map_nil, List.flatMap_nil, List.nil_append, hr]
    exact .same (fun m hm => absurd hm List.not_mem_nil) fun m hm => absurd hm List.not_mem_nil
  | cons m ms ih =>
    obtain ⟨name, v⟩ := m
    obtain ⟨k, rfl⟩ := Nat.exists_eq_add_one_of_ne_zero (Nat.ne_of_gt (Nat.zero_lt_of_lt hk))
    -- The names are written in order, so every member is put behind those already read.
    have hput : ∀ v', insertSorted name v' front = front ++ [(name, v')] := by
      intro v'
      refine insertSorted_of_forall_lt v' fun e he => ?_
      rw [List.map_append, List.pairwise_append] at hs
      exact hs.2.2 e.1 (List.mem_map_of_mem he) name (by simp)
    have hv := h (name, v) List.mem_cons_self _
      (delimited_rest (ms.map fun m => memberText m.1 m.2.write) (.inr rfl) r)
    have hb := hv.bind (f := fun v ms => front ++ (name, v) :: ms)
      (y := fun p => readMembers (readMember read) k false (insertSorted name p.1 front) p.2)
      (fun v' => by
        have hi := @ih k (front ++ [(name, v')])
          (fun m hm => h m (List.mem_cons_of_mem _ hm)) (by simpa using hs)
          (Nat.lt_of_succ_lt_succ hk)
        simpa [hput] using hi)
    have ht := hb.transport (f := fun p => (name, p.1) :: p.2) (by simp [Prod.ext_iff])
      (fun ms => front ++ ms) fun _ => rfl
    rw [List.map_cons, List.flatMap_cons, memberText_eq]
    simp only [List.cons_append, List.append_assoc, readMembers, nextName_comma, bind_ok,
      scanString_quote, String.ofList_toList, readMember, scanColon_colon, bind_assoc, pure_bind]
    exact ht.congr (by simp) (by simp)

theorem exists_of_whole {α : Type} {read : Reader α} {text : String} {a : α}
    (h : whole read text = .ok a) : ∃ r, read text.toList = .ok (a, r) := by
  rw [whole] at h
  split at h
  · rename_i ha
    obtain ⟨⟨b, r⟩, hb, ha⟩ := exists_of_bind_eq_ok ha
    dsimp only at ha
    split at ha
    · cases ha
      cases h
      exact ⟨r, hb⟩
    · cases ha
  · cases h

theorem exists_of_embedded {α : Type} {read : Reader α} {text : String} {a : α}
    (h : embedded read text = .ok a) : ∃ r, read text.toList = .ok (a, r) := by
  rw [embedded] at h
  split at h
  · rename_i hw
    cases h
    exact exists_of_whole hw
  · cases h

theorem ne_of_map_eq_ok {ε α β γ : Type} {x : Except ε α} {f : α → β × γ} {b : β} {c : γ}
    (h : x.map f = .ok (b, c)) {b' : β} (hf : ∀ a, (f a).1 ≠ b') : b ≠ b' := by
  obtain ⟨a, -, ha⟩ := exists_of_map_eq_ok h
  have hb := hf a
  rwa [ha] at hb

theorem name_mem_of_readMembers {read : Reader Value} {n : Nat} {first : Bool}
    {front members : List (String × Value)} {s r : List Char} {name : String}
    (h : readMembers (readMember read) n first front s = .ok (members, r))
    (hn : name ∈ front.map Prod.fst) : name ∈ members.map Prod.fst := by
  refine readMembers_invariant (p := fun ms => name ∈ ms.map Prod.fst)
    (fun {k ms t next r'} hp hr => ?_) hn h
  obtain ⟨t, -, hr⟩ := exists_of_bind_eq_ok hr
  obtain ⟨⟨v, t⟩, -, hr⟩ := exists_of_bind_eq_ok hr
  cases hr
  exact mem_keys_insertSorted_of_mem hp

/-- Embedded text gives way to its value, so no object is read whose only name stands for it. -/
theorem ne_embedding_of_readValueAt {n depth : Nat} {s r : List Char} {v : Value}
    (h : readValueAt n depth s = .ok (v, r)) (w : Value) : v ≠ .object [(embeddingName, w)] := by
  induction n generalizing depth s v r with
  | zero => cases h
  | succ n ih =>
    rw [readValueAt] at h
    split at h
    · cases h
    -- A word, a number and a string are no objects, nor is an array.
    rcases ite_eq_iff.mp h with ⟨-, h⟩ | ⟨-, h⟩
    · exact ne_of_map_eq_ok h fun _ => nofun
    rcases ite_eq_iff.mp h with ⟨-, h⟩ | ⟨-, h⟩
    · exact ne_of_map_eq_ok h fun _ => nofun
    rcases ite_eq_iff.mp h with ⟨-, h⟩ | ⟨-, h⟩
    · exact ne_of_map_eq_ok h fun _ => nofun
    rcases ite_eq_iff.mp h with ⟨-, h⟩ | ⟨-, h⟩
    · exact ne_of_map_eq_ok h fun _ => nofun
    rcases ite_eq_iff.mp h with ⟨-, h⟩ | ⟨-, h⟩
    · exact ne_of_map_eq_ok h fun _ => nofun
    rcases ite_eq_iff.mp h with ⟨-, h⟩ | ⟨-, h⟩
    · rcases ite_eq_iff.mp h with ⟨-, h⟩ | ⟨-, h⟩
      · cases h
      · exact ne_of_map_eq_ok h fun _ => nofun
    rcases ite_eq_iff.mp h with ⟨-, h⟩ | ⟨-, h⟩
    · rcases ite_eq_iff.mp h with ⟨-, h⟩ | ⟨-, h⟩
      · cases h
      · obtain ⟨next, -, h⟩ := exists_of_bind_eq_ok h
        cases next with
        | done =>
          cases h
          exact nofun
        | more s =>
          obtain ⟨⟨name, s⟩, -, h⟩ := exists_of_bind_eq_ok h
          obtain ⟨s, -, h⟩ := exists_of_bind_eq_ok h
          rcases ite_eq_iff.mp h with ⟨-, h⟩ | ⟨hne, h⟩
          · obtain ⟨⟨text, s⟩, -, h⟩ := exists_of_bind_eq_ok h
            obtain ⟨v', hv, h⟩ := exists_of_bind_eq_ok h
            obtain ⟨s, -, h⟩ := exists_of_bind_eq_ok h
            obtain ⟨r', hv⟩ := exists_of_embedded hv
            cases h
            exact ih hv
          · obtain ⟨⟨v', s⟩, -, h⟩ := exists_of_bind_eq_ok h
            obtain ⟨⟨members, s⟩, hm, h⟩ := exists_of_bind_eq_ok h
            cases h
            -- The first name is among those of the object in the end.
            have hn := name_mem_of_readMembers hm List.mem_cons_self
            intro he
            cases he
            exact hne (List.mem_singleton.mp hn)
    · cases h

theorem readValueAt_null (n depth : Nat) (r : List Char) :
    readValueAt (n + 1) depth (nullText ++ r) = .ok (.null, r) :=
  rfl

theorem readValueAt_bool (n depth : Nat) (b : Bool) (r : List Char) :
    readValueAt (n + 1) depth (boolText b ++ r) = .ok (.bool b, r) := by
  cases b <;> rfl

theorem readValueAt_number (n depth : Nat) {m : Int} (lo : -(1 <<< 63 : Nat) ≤ m)
    (hi : m < (1 <<< 64 : Nat)) {r : List Char} (hr : Delimited r) :
    readValueAt (n + 1) depth (decimalInt m ++ r) = .ok (.number (.int m lo hi), r) := by
  have hn := readNumber_decimalInt lo hi hr.endsNumber
  have hk := skipSpace_decimalInt m r
  generalize Number.int m lo hi = v at hn ⊢
  obtain ⟨c, s, hc, hs⟩ := opens_decimalInt m
  have hw : c ≠ 'n' ∧ c ≠ 't' ∧ c ≠ 'f' := by
    refine ⟨?_, ?_, ?_⟩ <;> (rintro rfl; cases hs)
  rw [hc, List.cons_append] at hn hk ⊢
  simp only [readValueAt, hk, hw, if_false, hs, if_true, hn]
  rfl

theorem readValueAt_quote (n depth : Nat) (s : String) (r : List Char) :
    readValueAt (n + 1) depth (quote s ++ r) = .ok (.string s, r) := by
  rw [quote_eq, List.cons_append, List.append_assoc]
  change (scanString (s.toList.flatMap escape ++ '"' :: r)).map _ = _
  rw [scanString_quote]
  simp [Except.map]

theorem readValueAt_array (n depth : Nat) (s : List Char) :
    readValueAt (n + 1) depth ('[' :: s) =
      if depth ≤ 1 then .error (.met .tooDeep ('[' :: s))
      else (readItems (readValueAt n (depth - 1)) n true s).map fun (vs, r) => (.array vs, r) :=
  rfl

theorem readValueAt_object (n depth : Nat) (s : List Char) :
    readValueAt (n + 1) depth ('\x7b' :: s) =
      if depth ≤ 1 then .error (.met .tooDeep ('\x7b' :: s))
      else do
        match ← nextName true s with
        | .done r => return (.object [], r)
        | .more s =>
          let (name, s) ← scanString s
          let name := String.ofList name
          let s ← scanColon s
          if name = embeddingName then
            let (text, s) ← readStringAs "raw value" s
            let v ← embedded (readValueAt n depthLimit) text
            let s ← endMembers s
            return (v, s)
          else
            let (v, s) ← readValueAt n (depth - 1) s
            let (members, r) ← readMembers (readMember (readValueAt n (depth - 1))) n false
              [(name, v)] s
            return (.object members, r) :=
  rfl

theorem readStringAs_of_ne {expected : String} {c : Char} (hc : opensValue c = true) (hq : c ≠ '"')
    (s : List Char) : readStringAs expected (c :: s) = .error (mismatch expected (c :: s)) := by
  simp only [readStringAs, skipSpace_of_opensValue hc]
  split
  · rename_i he
    exact absurd (List.cons.inj he).1 hq
  · rfl

/-- An object whose first name stands for embedded text is read as what the text says, if its member
is a text and the only one. -/
theorem reading_embedding {v : Value} (ho : v.NotReal) (n : Nat) {ms : List (String × Value)}
    {P F : Prop} (hP : ¬ P) (r : List Char) :
    Reading id (Value.object ((embeddingName, v) :: ms)) P F r (do
      let (text, s) ← readStringAs "raw value"
        (v.write ++ (((ms.map fun m => memberText m.1 m.2.write).flatMap fun q => ',' :: q) ++
          '\x7d' :: r))
      let v ← embedded (readValueAt n depthLimit) text
      let s ← endMembers s
      return (v, s)) := by
  by_cases hv : ∃ t, v = .string t
  · obtain ⟨t, rfl⟩ := hv
    rw [Value.write, readStringAs_quote, bind_ok]
    dsimp only
    cases he : embedded (readValueAt n depthLimit) t with
    | error stop => exact .stopped hP
    | ok w =>
      rw [bind_ok]
      cases ms with
      | nil =>
        obtain ⟨_, hw⟩ := exists_of_embedded he
        exact .other hP (ne_embedding_of_readValueAt hw _)
      | cons m ms => exact .stopped hP
  · obtain ⟨c, s, hs, hc⟩ := Value.opens_write ho
    have hq := Value.head?_write_ne_quote (not_exists.mp hv)
    rw [hs] at hq ⊢
    rw [List.cons_append, readStringAs_of_ne hc (fun h => hq (congrArg some h))]
    exact .stopped hP

namespace Value

variable {n depth : Nat} {items : List Value} {members : List (String × Value)}

theorem readsAt_array
    (h : 1 < depth → ∀ v ∈ items, ReadsAt (readValueAt n (depth - 1)) (depth - 1) v)
    (ho : ∀ v ∈ items, v.NotReal) (hn : items.length < n) :
    ReadsAt (readValueAt (n + 1) depth) depth (.array items) := by
  intro r _
  rw [write_array]
  simp only [arrayText, List.cons_append, List.append_assoc, readValueAt_array]
  split
  · exact .deep (by rw [Value.depth]; omega) rfl
  · rename_i hd
    have hr := (reading_items (h (Nat.not_le.mp hd)) ho hn r).map Value.array
    refine (hr.transport (f := Value.array) (fun _ _ => Value.array.inj) id fun _ => rfl).congr
      ?_ ?_
    · exact ⟨.array trivial, fun h => (everywhere_array_iff.mp h).2⟩
    · rw [Value.depth, ← Nat.lt_sub_iff_add_lt, depthItems_lt_iff (by omega)]

theorem readsAt_object
    (h : 1 < depth → ∀ m ∈ members, ReadsAt (readValueAt n (depth - 1)) (depth - 1) m.2)
    (ho : ∀ m ∈ members, m.2.NotReal) (hs : (Value.object members).Sorted)
    (hn : members.length < n) : ReadsAt (readValueAt (n + 1) depth) depth (.object members) := by
  intro r _
  rw [write_object]
  simp only [objectText, List.cons_append, List.append_assoc, readValueAt_object]
  split
  · exact .deep (by rw [Value.depth]; omega) rfl
  · rename_i hd
    have hr := h (Nat.not_le.mp hd)
    cases members with
    | nil =>
      exact .same (.object trivial fun _ hm => absurd hm List.not_mem_nil)
        (by rw [Value.depth, depthMembers]; omega)
    | cons m ms =>
      obtain ⟨name, v⟩ := m
      rw [List.map_cons, commas_cons, memberText_eq]
      simp only [List.cons_append, List.append_assoc, List.nil_append, nextName_first, bind_ok,
        scanString_quote, String.ofList_toList, scanColon_colon]
      by_cases he : name = embeddingName
      · subst he
        rw [if_pos rfl]
        exact reading_embedding (ho _ List.mem_cons_self) n
          (fun hp : Everywhere Plain (.object ((embeddingName, v) :: ms)) => hp.self rfl) r
      · rw [if_neg he]
        have hv := hr (name, v) List.mem_cons_self _
          (delimited_rest (ms.map fun m => memberText m.1 m.2.write) (.inr rfl) r)
        have hb := hv.bind (f := fun v ms => Value.object ((name, v) :: ms))
          (y := fun p => do
            let q ← readMembers (readMember (readValueAt n (depth - 1))) n false [(name, p.1)] p.2
            return (.object q.1, q.2))
          fun v' => (reading_members_rest [(name, v')]
            (fun m hm => hr m (List.mem_cons_of_mem _ hm)) hs (Nat.lt_of_succ_lt hn) r).map
              Value.object
        refine (hb.transport (f := fun p => Value.object ((name, p.1) :: p.2)) ?_ id
          fun _ => rfl).congr ?_ ?_
        · simp [Prod.ext_iff]
        · simp [everywhere_object_iff, Plain, he]
        · rw [Value.depth, ← Nat.lt_sub_iff_add_lt, depthMembers_lt_iff (by omega)]
          simp

/-- How the reader takes the text of a value without reals. -/
theorem readsAt_write {v : Value} (h : v.Everywhere fun v => v.Sorted ∧ v.NotReal)
    (hn : v.write.length < n) (hd : 0 < depth) : ReadsAt (readValueAt n depth) depth v := by
  induction h generalizing n depth with
  | null =>
    obtain ⟨n, rfl⟩ := Nat.exists_eq_add_one_of_ne_zero (Nat.ne_of_gt (Nat.zero_lt_of_lt hn))
    exact fun r _ => readValueAt_null n depth r ▸ .same (.null trivial) hd
  | @bool b =>
    obtain ⟨n, rfl⟩ := Nat.exists_eq_add_one_of_ne_zero (Nat.ne_of_gt (Nat.zero_lt_of_lt hn))
    intro r _
    rw [write, readValueAt_bool]
    exact .same (.bool trivial) hd
  | @number m h =>
    obtain ⟨n, rfl⟩ := Nat.exists_eq_add_one_of_ne_zero (Nat.ne_of_gt (Nat.zero_lt_of_lt hn))
    intro r hr
    cases m with
    | int m lo hi =>
      rw [write, Number.write, readValueAt_number n depth lo hi hr]
      exact .same (.number trivial) hd
    | real x => exact h.2.elim
  | @string s =>
    obtain ⟨n, rfl⟩ := Nat.exists_eq_add_one_of_ne_zero (Nat.ne_of_gt (Nat.zero_lt_of_lt hn))
    intro r _
    rw [write, readValueAt_quote]
    exact .same (.string trivial) hd
  | @array items _ hi ih =>
    obtain ⟨n, rfl⟩ := Nat.exists_eq_add_one_of_ne_zero (Nat.ne_of_gt (Nat.zero_lt_of_lt hn))
    obtain ⟨hl, hlv⟩ := length_of_array hn
    exact readsAt_array (fun hd v hv => ih v hv (hlv v hv) (Nat.sub_pos_of_lt hd))
      (fun v hv => (hi v hv).self.2) hl
  | @object members h hm ih =>
    obtain ⟨n, rfl⟩ := Nat.exists_eq_add_one_of_ne_zero (Nat.ne_of_gt (Nat.zero_lt_of_lt hn))
    obtain ⟨hl, hlv⟩ := length_of_object hn
    exact readsAt_object (fun hd m hv => ih m hv (hlv m hv) (Nat.sub_pos_of_lt hd))
      (fun m hv => (hm m hv).self.2) h.1 hl

end Value

theorem Reading.eq_ok {α γ : Type} {make : α → γ} {a : α} {P F : Prop} {r : List Char}
    {x : Except Stop (γ × List Char)} (h : Reading make a P F r x) (hp : P) (hf : F) :
    x = .ok (make a, r) := by
  cases h with
  | same => rfl
  | other h _ | stopped h => exact absurd hp h
  | deep h _ => exact absurd hf h

namespace Value

variable {v : Value}

theorem reading_readValue (hs : v.Everywhere Sorted) (hr : v.Everywhere NotReal) {r : List Char}
    (h : Delimited r) :
    Reading id v (v.Everywhere Plain) (v.depth < depthLimit) r (readValue (v.write ++ r)) :=
  readsAt_write (hs.and hr) (by simp only [List.length_append]; omega) (by decide) r h

/-- A value that begins no object with the name for embedded text is written as text that is read
back, unless it is nested too deep. -/
theorem written (hs : v.Everywhere Sorted) (hr : v.Everywhere NotReal) (hp : v.Everywhere Plain)
    (hd : v.depth < depthLimit) : Written readValue v.write v where
  opens := opens_write hr.self
  oneLine := newline_not_mem_write hr
  read_append _ h := (reading_readValue hs hr h).eq_ok hp hd

theorem whole_write_of_depth (hs : v.Everywhere Sorted) (hr : v.Everywhere NotReal)
    (hp : v.Everywhere Plain) (hd : depthLimit ≤ v.depth) :
    ∃ flaw, whole readValue (String.ofList v.write) = .error flaw ∧ flaw.fault = .tooDeep := by
  have h := reading_readValue hs hr (r := []) trivial
  rw [List.append_nil] at h
  generalize he : readValue v.write = x at h
  cases h with
  | deep _ hf => exact ⟨_, whole_of_error he, hf⟩
  | same _ hl => exact absurd hl (Nat.not_lt.mpr hd)
  | other h _ | stopped h => exact absurd hp h

/-- An object that begins with the name for embedded text never comes back. -/
theorem whole_write_ne (hs : v.Everywhere Sorted) (hr : v.Everywhere NotReal)
    (hp : ¬ v.Everywhere Plain) : whole readValue (String.ofList v.write) ≠ .ok v := by
  have h := reading_readValue hs hr (r := []) trivial
  rw [List.append_nil] at h
  generalize he : readValue v.write = x at h
  intro hw
  obtain ⟨r, hw⟩ := exists_of_whole hw
  rw [String.toList_ofList, he] at hw
  cases h with
  | same h _ => exact hp h
  | other _ hb => exact hb (Prod.ext_iff.mp (Except.ok.inj hw)).1
  | deep | stopped => cases hw

end Value

end OneShot.Json
