import OneShot.Proofs.Json.Members

/-! What holds of a JSON value and of all values in it, how deep it is nested, and what its text
looks like from outside. -/

namespace OneShot.Json

namespace Value

mutual

/-- How many arrays and objects are nested in one another. -/
def depth : Value → Nat
  | .array items => depthItems items + 1
  | .object members => depthMembers members + 1
  | .null | .bool _ | .number _ | .string _ => 0

def depthItems : List Value → Nat
  | [] => 0
  | v :: vs => max v.depth (depthItems vs)

def depthMembers : List (String × Value) → Nat
  | [] => 0
  | (_, v) :: ms => max v.depth (depthMembers ms)

end

/-- Whether something holds of a value and of all values in it. -/
inductive Everywhere (p : Value → Prop) : Value → Prop
  | null (h : p .null) : Everywhere p .null
  | bool {b : Bool} (h : p (.bool b)) : Everywhere p (.bool b)
  | number {n : Number} (h : p (.number n)) : Everywhere p (.number n)
  | string {s : String} (h : p (.string s)) : Everywhere p (.string s)
  | array {items : List Value} (h : p (.array items)) (hi : ∀ v ∈ items, Everywhere p v) :
      Everywhere p (.array items)
  | object {members : List (String × Value)} (h : p (.object members))
      (hm : ∀ m ∈ members, Everywhere p m.2) : Everywhere p (.object members)

/-- Members are kept in the order of their names. -/
def Sorted : Value → Prop
  | .object members => (members.map Prod.fst).Pairwise (· < ·)
  | _ => True

def NotReal : Value → Prop
  | .number (.real _) => False
  | _ => True

/-- Whether a value is not an object whose first name stands for embedded text. -/
def Plain : Value → Prop
  | .object ((name, _) :: _) => name ≠ embeddingName
  | _ => True

variable {p q : Value → Prop} {items : List Value} {members : List (String × Value)}

theorem Everywhere.and {v : Value} (hp : v.Everywhere p) (hq : v.Everywhere q) :
    v.Everywhere fun v => p v ∧ q v := by
  induction hp with
  | null h => cases hq with | null h' => exact .null ⟨h, h'⟩
  | bool h => cases hq with | bool h' => exact .bool ⟨h, h'⟩
  | number h => cases hq with | number h' => exact .number ⟨h, h'⟩
  | string h => cases hq with | string h' => exact .string ⟨h, h'⟩
  | array h _ ih => cases hq with | array h' hi => exact .array ⟨h, h'⟩ fun v hv => ih v hv (hi v hv)
  | object h _ ih =>
    cases hq with | object h' hm => exact .object ⟨h, h'⟩ fun m hv => ih m hv (hm m hv)

theorem Everywhere.self {v : Value} (h : v.Everywhere p) : p v := by
  cases h <;> assumption

theorem everywhere_array_iff :
    (Value.array items).Everywhere p ↔ p (.array items) ∧ ∀ v ∈ items, v.Everywhere p :=
  ⟨fun h => by cases h with | array h hi => exact ⟨h, hi⟩, fun h => .array h.1 h.2⟩

theorem everywhere_object_iff :
    (Value.object members).Everywhere p ↔
      p (.object members) ∧ ∀ m ∈ members, m.2.Everywhere p :=
  ⟨fun h => by cases h with | object h hm => exact ⟨h, hm⟩, fun h => .object h.1 h.2⟩

theorem depthItems_lt_iff {d : Nat} (hd : 0 < d) :
    depthItems items < d ↔ ∀ v ∈ items, v.depth < d := by
  induction items with
  | nil => simp [depthItems, hd]
  | cons v vs ih => simp only [depthItems, Nat.max_lt, ih, List.forall_mem_cons]

theorem depthMembers_lt_iff {d : Nat} (hd : 0 < d) :
    depthMembers members < d ↔ ∀ m ∈ members, m.2.depth < d := by
  induction members with
  | nil => simp [depthMembers, hd]
  | cons m ms ih =>
    obtain ⟨name, v⟩ := m
    simp only [depthMembers, Nat.max_lt, ih, List.forall_mem_cons]

theorem writeItems_eq (items : List Value) : writeItems items = items.map write := by
  induction items with
  | nil => rfl
  | cons v vs ih => rw [writeItems, ih, List.map_cons]

theorem writeMembers_eq (members : List (String × Value)) :
    writeMembers members = members.map fun m => memberText m.1 m.2.write := by
  induction members with
  | nil => rfl
  | cons m ms ih =>
    obtain ⟨name, v⟩ := m
    rw [writeMembers, ih, List.map_cons]

theorem write_array (items : List Value) :
    (Value.array items).write = arrayText (items.map write) := by
  rw [write, writeItems_eq]

theorem write_object (members : List (String × Value)) :
    (Value.object members).write = objectText (members.map fun m => memberText m.1 m.2.write) := by
  rw [write, writeMembers_eq]

theorem opens_write {v : Value} (h : NotReal v) : ∃ c s, v.write = c :: s ∧ opensValue c = true := by
  cases v with
  | null => exact ⟨_, _, rfl, rfl⟩
  | bool b => cases b <;> exact ⟨_, _, rfl, rfl⟩
  | number n =>
    cases n with
    | int n lo hi =>
      obtain ⟨c, s, hc, hs⟩ := opens_decimalInt n
      exact ⟨c, s, hc, by simp [opensValue, hs]⟩
    | real x => exact h.elim
  | string s => exact opens_quote s
  | array items => exact ⟨'[', _, by rw [write_array, arrayText]; rfl, rfl⟩
  | object members => exact ⟨'\x7b', _, by rw [write_object, objectText]; rfl, rfl⟩

theorem head?_write_ne_quote {v : Value} (h : ∀ s, v ≠ .string s) : v.write.head? ≠ some '"' := by
  cases v with
  | null => decide
  | bool b => cases b <;> decide
  | number n =>
    have hn : '"' ∉ n.write := by
      cases n with
      | int n lo hi =>
        intro hm
        by_cases hn : n < 0
        · simp [Number.write, decimalInt_of_neg hn, quote_not_mem_decimal] at hm
        · rw [Number.write, decimalInt_of_nonneg (by omega)] at hm
          exact quote_not_mem_decimal _ hm
      | real x => exact Encoded.quote_not_mem_json _ _ _
    exact fun hh => hn (List.mem_of_head? hh)
  | string s => exact absurd rfl (h s)
  | array items => simp [write_array, arrayText]
  | object members => simp [write_object, objectText]

theorem newline_not_mem_write {v : Value} (h : v.Everywhere NotReal) : '\n' ∉ v.write := by
  induction h with
  | null => decide
  | @bool b => cases b <;> decide
  | @number n h =>
    cases n with
    | int n lo hi => exact newline_not_mem_decimalInt n
    | real x => exact h.elim
  | @string s => exact newline_not_mem_quote s
  | @array items _ _ ih =>
    have hc : '\n' ∉ commas (items.map write) := newline_not_mem_commas fun p hp => by
      obtain ⟨v, hv, rfl⟩ := List.mem_map.mp hp
      exact ih v hv
    simp [write_array, arrayText, hc]
  | @object members _ _ ih =>
    rw [write_object]
    refine newline_not_mem_objectText fun p hp => ?_
    obtain ⟨m, hm, rfl⟩ := List.mem_map.mp hp
    exact newline_not_mem_memberText (ih m hm)

theorem length_of_array {n : Nat}
    (h : (Value.array items).write.length < n + 1) :
    items.length < n ∧ ∀ v ∈ items, v.write.length < n := by
  have hl := length_le_length_commas (items.map write)
  rw [write_array] at h
  simp only [arrayText, List.length_append, List.length_cons, List.length_map] at h hl
  refine ⟨by omega, fun v hv => ?_⟩
  have hm := length_le_length_commas_of_mem (List.mem_map_of_mem (f := write) hv)
  omega

theorem length_of_object {n : Nat}
    (h : (Value.object members).write.length < n + 1) :
    members.length < n ∧ ∀ m ∈ members, m.2.write.length < n := by
  have hl := length_le_length_commas (members.map fun m => memberText m.1 m.2.write)
  rw [write_object] at h
  simp only [objectText, List.length_append, List.length_cons, List.length_map] at h hl
  refine ⟨by omega, fun m hm => ?_⟩
  have hm := length_le_length_commas_of_mem
    (List.mem_map_of_mem (f := fun m => memberText m.1 m.2.write) hm)
  rw [memberText, List.length_append, List.length_cons] at hm
  omega

end Value

end OneShot.Json
