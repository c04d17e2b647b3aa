/-! Values under text keys, kept in the order of the keys. A key occurs once; the last value put
under it stays. -/

namespace OneShot

def insertSorted {α : Type} (k : String) (a : α) : List (String × α) → List (String × α)
  | [] => [(k, a)]
  | (l, b) :: rest =>
    if k < l then (k, a) :: (l, b) :: rest
    else if k = l then (k, a) :: rest
    else (l, b) :: insertSorted k a rest

theorem mem_insertSorted {α : Type} {k : String} {a : α} {e : String × α}
    {entries : List (String × α)} (h : e ∈ insertSorted k a entries) :
    e = (k, a) ∨ e ∈ entries := by
  induction entries with
  | nil => exact Or.inl (List.mem_singleton.mp h)
  | cons f rest ih =>
    simp only [insertSorted] at h
    split at h
    · exact List.mem_cons.mp h
    · split at h
      · rcases List.mem_cons.mp h with h | h
        · exact Or.inl h
        · exact Or.inr (List.mem_cons_of_mem _ h)
      · rcases List.mem_cons.mp h with rfl | h
        · exact Or.inr List.mem_cons_self
        · exact (ih h).imp_right (List.mem_cons_of_mem _)

theorem mem_keys_insertSorted {α : Type} {k l : String} {a : α} {entries : List (String × α)}
    (h : l ∈ (insertSorted k a entries).map Prod.fst) : l = k ∨ l ∈ entries.map Prod.fst := by
  obtain ⟨e, he, rfl⟩ := List.mem_map.mp h
  rcases mem_insertSorted he with rfl | he
  · exact Or.inl rfl
  · exact Or.inr (List.mem_map_of_mem he)

theorem mem_keys_insertSorted_of_mem {α : Type} {k l : String} {a : α}
    {entries : List (String × α)} (h : l ∈ entries.map Prod.fst) :
    l ∈ (insertSorted k a entries).map Prod.fst := by
  induction entries with
  | nil => cases h
  | cons e rest ih =>
    simp only [insertSorted]
    split
    · exact List.mem_cons_of_mem _ h
    · split
      · rename_i hk
        simpa [hk] using h
      · rcases List.mem_cons.mp h with rfl | h
        · exact List.mem_cons_self
        · exact List.mem_cons_of_mem _ (ih h)

theorem insertSorted_pairwise {α : Type} (k : String) (a : α) {entries : List (String × α)}
    (h : (entries.map Prod.fst).Pairwise (· < ·)) :
    ((insertSorted k a entries).map Prod.fst).Pairwise (· < ·) := by
  induction entries with
  | nil => simp [insertSorted]
  | cons e rest ih =>
    obtain ⟨m, b⟩ := e
    simp only [List.map_cons, List.pairwise_cons] at h
    simp only [insertSorted]
    split
    · rename_i hkm
      simp only [List.map_cons, List.pairwise_cons]
      refine ⟨fun l hl => ?_, h⟩
      rcases List.mem_cons.mp hl with rfl | hl
      · exact hkm
      · exact String.lt_trans hkm (h.1 l hl)
    · split
      · rename_i hkm
        subst hkm
        simpa using h
      · rename_i hlt hne
        simp only [List.map_cons, List.pairwise_cons]
        refine ⟨fun l hl => ?_, ih h.2⟩
        rcases mem_keys_insertSorted hl with rfl | hl
        · exact String.not_le.mp fun hle => hne (String.le_antisymm hle (String.not_lt.mp hlt))
        · exact h.1 l hl

theorem find?_insertSorted {α : Type} (k l : String) (a : α) (entries : List (String × α)) :
    (insertSorted k a entries).find? (fun e => e.1 == l) =
      if k == l then some (k, a) else entries.find? fun e => e.1 == l := by
  have hcons : ∀ es : List (String × α), ((k, a) :: es).find? (fun e => e.1 == l) =
      if k == l then some (k, a) else es.find? fun e => e.1 == l := by
    intro es
    rw [List.find?_cons]
    cases k == l <;> rfl
  induction entries with
  | nil => exact hcons []
  | cons e rest ih =>
    obtain ⟨m, b⟩ := e
    simp only [insertSorted]
    split
    · exact hcons _
    · split
      · rename_i hk
        rw [hcons, List.find?_cons, ← hk]
        cases k == l <;> rfl
      · rename_i hk
        rw [List.find?_cons, List.find?_cons, ih]
        by_cases hm : m = l
        · simp [← hm, hk]
        · simp only [beq_false_of_ne hm]

/-- What has a greater key than all others comes last. -/
theorem insertSorted_of_forall_lt {α : Type} {k : String} (a : α) {entries : List (String × α)}
    (h : ∀ e ∈ entries, e.1 < k) : insertSorted k a entries = entries ++ [(k, a)] := by
  induction entries with
  | nil => rfl
  | cons e rest ih =>
    have he : e.1 < k := h e List.mem_cons_self
    have hne : k ≠ e.1 := fun hk => String.lt_irrefl e.1 (hk ▸ he)
    rw [insertSorted, if_neg (String.lt_asymm he), if_neg hne,
      ih fun f hf => h f (List.mem_cons_of_mem _ hf), List.cons_append]

/-- Entries in order are put behind those that come before them. -/
theorem foldl_insertSorted {α : Type} {front entries : List (String × α)}
    (h : ((front ++ entries).map Prod.fst).Pairwise (· < ·)) :
    entries.foldl (fun m e => insertSorted e.1 e.2 m) front = front ++ entries := by
  induction entries generalizing front with
  | nil => simp
  | cons e rest ih =>
    have hlt : ∀ f ∈ front, f.1 < e.1 := by
      intro f hf
      rw [List.map_append, List.pairwise_append] at h
      exact h.2.2 f.1 (List.mem_map_of_mem hf) e.1 (by simp)
    rw [List.foldl_cons, insertSorted_of_forall_lt e.2 hlt, ih (by simpa using h)]
    simp

/-- A finite map from text, its entries in strictly increasing order of keys. -/
structure Dictionary (α : Type) where
  entries : List (String × α)
  sorted : (entries.map Prod.fst).Pairwise (· < ·)

namespace Dictionary

variable {α : Type}

instance [DecidableEq α] : DecidableEq (Dictionary α) := fun a b =>
  if h : a.entries = b.entries then isTrue (by cases a; cases b; simpa using h)
  else isFalse fun e => h (by rw [e])

def empty : Dictionary α :=
  ⟨[], List.Pairwise.nil⟩

instance : Inhabited (Dictionary α) := ⟨empty⟩

def insert (d : Dictionary α) (k : String) (a : α) : Dictionary α :=
  ⟨insertSorted k a d.entries, insertSorted_pairwise k a d.sorted⟩

def find? (d : Dictionary α) (k : String) : Option α :=
  (d.entries.find? fun e => e.1 == k).map Prod.snd

def keys (d : Dictionary α) : List String :=
  d.entries.map Prod.fst

def isEmpty (d : Dictionary α) : Bool :=
  d.entries.isEmpty

theorem find?_insert (d : Dictionary α) (k : String) (a : α) (l : String) :
    (d.insert k a).find? l = if k == l then some a else d.find? l := by
  simp only [find?, insert, find?_insertSorted]
  split <;> rfl

theorem entries_foldl_insert (d : Dictionary α) (entries : List (String × α)) :
    (entries.foldl (fun d e => d.insert e.1 e.2) d).entries =
      entries.foldl (fun m e => insertSorted e.1 e.2 m) d.entries := by
  induction entries generalizing d with
  | nil => rfl
  | cons e rest ih => exact ih (d.insert e.1 e.2)

/-- A dictionary is what its entries make when they are put in from the first to the last. -/
theorem foldl_insert_entries (d : Dictionary α) :
    d.entries.foldl (fun m e => m.insert e.1 e.2) empty = d := by
  have h : (d.entries.foldl (fun m e => m.insert e.1 e.2) empty).entries = d.entries := by
    rw [entries_foldl_insert]
    exact foldl_insertSorted (by simpa [empty] using d.sorted)
  generalize d.entries.foldl (fun m e => m.insert e.1 e.2) empty = m at h
  cases m
  cases d
  cases h
  rfl

end Dictionary

end OneShot
