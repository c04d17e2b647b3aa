import OneShot.Proofs.Json.Objects
import Mathlib.Data.List.Forall2

/-! What an object gives for the names that are known. The order of its members does not matter, nor do
its other members and the white space between its tokens. -/

namespace OneShot.Json

variable {α β : Type} {Form : List Char → β → Prop} {name : String}
  {members : List (String × List Char)}

/-- What the members of an object give for a name: no member of the name and no value, or one member with
its value. -/
inductive Given (Form : List Char → β → Prop) (name : String)
    (members : List (String × List Char)) : Option β → Prop
  | absent (h : ∀ m ∈ members, m.1 ≠ name) : Given Form name members none
  | once {value : List Char} {b : β}
      (h : members.filter (fun m => m.1 == name) = [(name, value)]) (hv : Form value b) :
      Given Form name members (some b)

theorem filter_eq_nil_iff_name :
    members.filter (fun m => m.1 == name) = [] ↔ ∀ m ∈ members, m.1 ≠ name := by
  simp [List.filter_eq_nil_iff]

theorem Given.cons_of_ne {m : String × List Char} {o : Option β} (hm : m.1 ≠ name) :
    Given Form name (m :: members) o ↔ Given Form name members o := by
  have hf : (m :: members).filter (fun m => m.1 == name) = members.filter fun m => m.1 == name :=
    List.filter_cons_of_neg (by simpa using hm)
  constructor
  · rintro (h | ⟨h, hv⟩)
    · exact .absent fun m' hm' => h m' (List.mem_cons_of_mem _ hm')
    · exact .once (hf ▸ h) hv
  · rintro (h | ⟨h, hv⟩)
    · exact .absent (List.forall_mem_cons.mpr ⟨hm, h⟩)
    · exact .once (hf.trans h) hv

theorem Given.cons_self {value : List Char} {o : Option β} :
    Given Form name ((name, value) :: members) o ↔
      (∀ m ∈ members, m.1 ≠ name) ∧ ∃ b, o = some b ∧ Form value b := by
  have hf : ((name, value) :: members).filter (fun m => m.1 == name) =
      (name, value) :: members.filter fun m => m.1 == name :=
    List.filter_cons_of_pos (by simp)
  constructor
  · rintro (h | ⟨h, hv⟩)
    · exact absurd rfl (h _ List.mem_cons_self)
    · rw [hf] at h
      obtain ⟨hm, hrest⟩ := List.cons.inj h
      cases hm
      exact ⟨filter_eq_nil_iff_name.mp hrest, _, rfl, hv⟩
  · rintro ⟨h, b, rfl, hv⟩
    refine .once ?_ hv
    rw [hf, filter_eq_nil_iff_name.mpr h]

/-- Members give one value for a name. -/
theorem Given.unique {read : Reader β} (hr : Recognizes read Form) {o o' : Option β}
    (h : Given Form name members o) (h' : Given Form name members o') : o = o' := by
  cases h with
  | absent h =>
    cases h' with
    | absent => rfl
    | once h' =>
      rw [filter_eq_nil_iff_name.mpr h] at h'
      cases h'
  | once h hv =>
    cases h' with
    | absent h' =>
      rw [filter_eq_nil_iff_name.mpr h'] at h
      cases h
    | once h' hv' =>
      rw [h] at h'
      cases h'
      rw [hr.unique hv hv']

theorem Given.map {Form' : List Char → α → Prop} {f : β → α} {o : Option β}
    (h : Given Form name members o) (hf : ∀ value b, Form value b → Form' value (f b)) :
    Given Form' name members (o.map f) := by
  cases h with
  | absent h => exact .absent h
  | once h hv => exact .once h (hf _ _ hv)

/-! Objects that are alike. -/

def known (names : List String) (members : List (String × List Char)) : List (String × List Char) :=
  members.filter fun m => names.contains m.1

/-- The same name with the same value, where `Same` says which texts are taken for the same value of a
name. -/
def SameMember (Same : String → List Char → List Char → Prop) (m m' : String × List Char) : Prop :=
  m.1 = m'.1 ∧ Same m.1 m.2 m'.2

/-- Two texts of objects that have the same known members, each in an order of its own. -/
inductive Alike (names : List String) (Same : String → List Char → List Char → Prop)
    (text text' : List Char) : Prop
  | mk {members members' reordered : List (String × List Char)} (h : HasMembers text members)
      (h' : HasMembers text' members') (hp : (known names members).Perm reordered)
      (hs : List.Forall₂ (SameMember Same) reordered (known names members'))

theorem filter_known {names : List String} (hn : name ∈ names)
    (members : List (String × List Char)) :
    (known names members).filter (fun m => m.1 == name) = members.filter fun m => m.1 == name := by
  rw [known, List.filter_filter]
  refine List.filter_congr fun m _ => ?_
  by_cases hm : m.1 = name
  · simp [hm, hn]
  · simp [hm]

/-- Objects that are alike give the same for a known name. -/
theorem Given.of_same {names : List String} {Same : String → List Char → List Char → Prop}
    {members' reordered : List (String × List Char)} {o : Option β} (h : Given Form name members o)
    (hn : name ∈ names) (hp : (known names members).Perm reordered)
    (hs : List.Forall₂ (SameMember Same) reordered (known names members'))
    (hsame : ∀ value value' b, Same name value value' → Form value b → Form value' b) :
    Given Form name members' o := by
  have hperm := hp.filter fun m => m.1 == name
  have hfilter : List.Forall₂ (SameMember Same) (reordered.filter fun m => m.1 == name)
      (members'.filter fun m => m.1 == name) := by
    rw [← filter_known hn members']
    exact List.rel_filter (fun m m' hm => by simp only [hm.1]) hs
  rw [filter_known hn] at hperm
  cases h with
  | absent h =>
    rw [filter_eq_nil_iff_name.mpr h] at hperm
    rw [hperm.nil_eq.symm, List.forall₂_nil_left_iff] at hfilter
    exact .absent (filter_eq_nil_iff_name.mp hfilter)
  | @once value b h hv =>
    rw [h] at hperm
    rw [List.perm_singleton.mp hperm.symm, List.forall₂_cons_left_iff] at hfilter
    obtain ⟨⟨_, value'⟩, _, ⟨rfl, hvalue⟩, hrest, hm⟩ := hfilter
    rw [List.forall₂_nil_left_iff.mp hrest] at hm
    exact .once hm (hsame value value' b hvalue hv)

end OneShot.Json
