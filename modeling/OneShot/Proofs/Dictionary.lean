import OneShot.Proofs.Registration
import Mathlib.Data.List.Sort

/-! A dictionary is known by what it finds, and what it finds under a key is what was put there last. -/

namespace OneShot.Dictionary

variable {α : Type}

/-- The last of the entries under a key. -/
def last? (k : String) (entries : List (String × α)) : Option α :=
  (entries.filterMap fun e => if e.1 == k then some e.2 else none).getLast?

theorem find?_foldl_insert (d : Dictionary α) (entries : List (String × α)) (k : String) :
    (entries.foldl (fun d e => d.insert e.1 e.2) d).find? k = (last? k entries).or (d.find? k) := by
  refine lookup_foldl (fun d => d.find? k) _ (fun d e => ?_) d entries
  rw [find?_insert]
  split <;> rfl

theorem find?_eq_some_iff {d : Dictionary α} {k : String} {a : α} :
    d.find? k = some a ↔ (k, a) ∈ d.entries := by
  have hs := d.sorted
  rw [find?]
  generalize d.entries = entries at hs
  induction entries with
  | nil => simp
  | cons e rest ih =>
    obtain ⟨l, b⟩ := e
    simp only [List.map_cons, List.pairwise_cons] at hs
    have hi := ih hs.2
    by_cases hl : l = k
    · subst hl
      have hne : (l, a) ∉ rest := fun hm =>
        String.lt_irrefl l (hs.1 l (List.mem_map_of_mem hm))
      simp [hne, eq_comm]
    · have hne : (k, a) ≠ (l, b) := fun h => hl (Prod.mk.inj h).1.symm
      have hcons : ((l, b) :: rest).find? (fun e => e.1 == k) = rest.find? fun e => e.1 == k :=
        List.find?_cons_of_neg (by simpa using hl)
      rw [hcons, List.mem_cons, or_iff_right hne]
      exact hi

theorem entries_pairwise (d : Dictionary α) : d.entries.Pairwise fun e f => e.1 < f.1 :=
  List.pairwise_map.mp d.sorted

theorem entries_nodup (d : Dictionary α) : d.entries.Nodup := by
  refine d.entries_pairwise.imp fun {e f} h => ?_
  rintro rfl
  exact String.lt_irrefl e.1 h

/-- Dictionaries that find the same are the same. -/
theorem eq_of_find? {d e : Dictionary α} (h : ∀ k, d.find? k = e.find? k) : d = e := by
  have hmem : ∀ p, p ∈ d.entries ↔ p ∈ e.entries := by
    rintro ⟨k, a⟩
    rw [← find?_eq_some_iff, ← find?_eq_some_iff, h]
  have hperm : d.entries.Perm e.entries :=
    (List.perm_ext_iff_of_nodup d.entries_nodup e.entries_nodup).mpr hmem
  have he : d.entries = e.entries :=
    hperm.eq_of_pairwise (fun _ _ _ _ hl hg => absurd hg (String.lt_asymm hl)) d.entries_pairwise
      e.entries_pairwise
  cases d
  cases e
  cases he
  rfl

end OneShot.Dictionary
