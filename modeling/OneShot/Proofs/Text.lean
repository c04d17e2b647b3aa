import OneShot.Text.Blank
import Mathlib.Data.List.DropRight
import Mathlib.Data.List.TakeWhile

/-! Text that is stripped at its ends, cut at its signs and put into lower case. What has been treated
so is not changed when it is treated again. -/

namespace OneShot

/-- Text that neither begins nor ends with a character satisfying `p`. -/
def Stripped (p : Char → Bool) (s : List Char) : Prop :=
  (∀ c ∈ s.head?, p c = false) ∧ ∀ c ∈ s.getLast?, p c = false

variable {p : Char → Bool} {s : List Char}

theorem dropWhile_eq_self_iff_head : s.dropWhile p = s ↔ ∀ c ∈ s.head?, p c = false := by
  cases s with
  | nil => simp
  | cons c s => simp [List.dropWhile_eq_self_iff]

theorem eq_false_of_head?_dropWhile {c : Char} (h : c ∈ (s.dropWhile p).head?) : p c = false := by
  have hn := List.head?_dropWhile_not p s
  rw [Option.mem_def.mp h] at hn
  exact hn

theorem strip_sublist (p : Char → Bool) (s : List Char) : (strip p s).Sublist s :=
  (List.rdropWhile_prefix p (s.dropWhile p)).sublist.trans (List.dropWhile_suffix p).sublist

theorem mem_of_mem_strip {c : Char} (h : c ∈ strip p s) : c ∈ s :=
  (strip_sublist p s).subset h

theorem stripped_strip (p : Char → Bool) (s : List Char) : Stripped p (strip p s) := by
  constructor
  · intro c hc
    obtain ⟨t, ht⟩ := List.rdropWhile_prefix p (s.dropWhile p)
    refine eq_false_of_head?_dropWhile (s := s) ?_
    rw [← ht]
    exact List.mem_head?_append_of_mem_head? hc
  · intro c hc
    rw [strip, List.getLast?_reverse] at hc
    exact eq_false_of_head?_dropWhile hc

theorem strip_eq_self_iff : strip p s = s ↔ Stripped p s := by
  constructor
  · intro h
    exact h ▸ stripped_strip p s
  · rintro ⟨hh, hl⟩
    rw [strip, dropWhile_eq_self_iff_head.mpr hh, List.reverse_eq_iff, dropWhile_eq_self_iff_head,
      List.head?_reverse]
    exact hl

theorem strip_concat {c : Char} (hc : p c = true) (s : List Char) :
    strip p (s ++ [c]) = strip p s := by
  rw [strip, strip, List.dropWhile_append]
  split
  · rename_i h
    rw [List.isEmpty_iff.mp h]
    simp [hc]
  · simp [hc]

/-- Text that begins with a stripped text and a character that stays is stripped at its end only. -/
theorem exists_strip_append {l : List Char} {c : Char} (hl : Stripped p l) (hc : p c = false)
    (s : List Char) : ∃ t, strip p (l ++ c :: s) = l ++ c :: t ∧ strip p t = strip p s := by
  have hh : ∀ t, ∀ d ∈ (l ++ c :: t).head?, p d = false := by
    intro t d hd
    cases l with
    | nil =>
      cases hd
      exact hc
    | cons e l => exact hl.1 d hd
  induction s using List.reverseRecOn with
  | nil =>
    refine ⟨[], strip_eq_self_iff.mpr ⟨hh [], fun d hd => ?_⟩, rfl⟩
    rw [List.getLast?_append] at hd
    cases hd
    exact hc
  | append_singleton s d ih =>
    by_cases hd : p d = true
    · obtain ⟨t, ht, he⟩ := ih
      refine ⟨t, ?_, he.trans (strip_concat hd s).symm⟩
      rw [← List.cons_append, ← List.append_assoc, strip_concat hd, ht]
    · refine ⟨s ++ [d], strip_eq_self_iff.mpr ⟨hh _, fun e he => ?_⟩, rfl⟩
      rw [← List.cons_append, ← List.append_assoc, List.getLast?_append] at he
      cases he
      exact eq_false_of_ne_true hd

theorem strip_append_left {l : List Char} (hl : ∀ c ∈ l, p c = true) (s : List Char) :
    strip p (l ++ s) = strip p s := by
  rw [strip, strip, List.dropWhile_append_of_pos hl]

theorem strip_append_right {r : List Char} (hr : ∀ c ∈ r, p c = true) (s : List Char) :
    strip p (s ++ r) = strip p s := by
  induction r using List.reverseRecOn with
  | nil => rw [List.append_nil]
  | append_singleton r c ih =>
    rw [← List.append_assoc, strip_concat (hr c (by simp))]
    exact ih fun d hd => hr d (List.mem_append_left _ hd)

/-- What is stripped off satisfies `p`. -/
theorem exists_strip (p : Char → Bool) (s : List Char) :
    ∃ l r, s = l ++ (strip p s ++ r) ∧ (∀ c ∈ l, p c = true) ∧ ∀ c ∈ r, p c = true := by
  have hright : s.dropWhile p = strip p s ++ ((s.dropWhile p).reverse.takeWhile p).reverse := by
    rw [strip, ← List.reverse_append, List.takeWhile_append_dropWhile, List.reverse_reverse]
  refine ⟨s.takeWhile p, ((s.dropWhile p).reverse.takeWhile p).reverse, ?_, ?_, ?_⟩
  · rw [← hright, List.takeWhile_append_dropWhile]
  · exact fun c => List.mem_takeWhile_imp
  · exact fun c hc => List.mem_takeWhile_imp (List.mem_reverse.mp hc)

theorem mem_strip_iff {c : Char} (hc : p c = false) : c ∈ strip p s ↔ c ∈ s := by
  refine ⟨mem_of_mem_strip, fun h => ?_⟩
  obtain ⟨l, r, hs, hl, hr⟩ := exists_strip p s
  rw [hs, List.mem_append, List.mem_append] at h
  rcases h with h | h | h
  · rw [hl c h] at hc
    cases hc
  · exact h
  · rw [hr c h] at hc
    cases hc

theorem strip_eq_nil_iff : strip p s = [] ↔ ∀ c ∈ s, p c = true := by
  constructor
  · intro h c hc
    by_contra hp
    have hm := (mem_strip_iff (eq_false_of_ne_true hp)).mpr hc
    rw [h] at hm
    cases hm
  · intro h
    have hs := strip_append_left h []
    rwa [List.append_nil] at hs

/-! Cutting. -/

theorem cutAt_of_forall (hs : ∀ d ∈ s, p d = false) : cutAt p s = [s] := by
  induction s with
  | nil => rfl
  | cons d s ih =>
    simp [cutAt, hs d List.mem_cons_self, ih fun e he => hs e (List.mem_cons_of_mem _ he)]

theorem cutAt_append_cons {c : Char} (hc : p c = true) (hs : ∀ d ∈ s, p d = false)
    (t : List Char) : cutAt p (s ++ c :: t) = s :: cutAt p t := by
  induction s with
  | nil => simp [cutAt, hc]
  | cons d s ih =>
    simp [cutAt, hs d List.mem_cons_self, ih fun e he => hs e (List.mem_cons_of_mem _ he)]

/-- Pieces that were put together are cut apart again. -/
theorem cutAt_append_flatMap {c : Char} (hc : p c = true) {ws : List (List Char)}
    (hs : ∀ d ∈ s, p d = false) (hw : ∀ w ∈ ws, ∀ d ∈ w, p d = false) :
    cutAt p (s ++ ws.flatMap fun w => c :: w) = s :: ws := by
  induction ws generalizing s with
  | nil => rw [List.flatMap_nil, List.append_nil, cutAt_of_forall hs]
  | cons w ws ih =>
    have hi := ih (hw w List.mem_cons_self) fun v hv => hw v (List.mem_cons_of_mem _ hv)
    rw [List.flatMap_cons, List.cons_append, cutAt_append_cons hc hs, hi]

theorem eq_false_of_mem_cutAt {w : List Char} (hw : w ∈ cutAt p s) : ∀ c ∈ w, p c = false := by
  induction s generalizing w with
  | nil =>
    rw [cutAt, List.mem_singleton] at hw
    simp [hw]
  | cons d s ih =>
    rw [cutAt] at hw
    split at hw
    · rcases List.mem_cons.mp hw with rfl | hw
      · simp
      · exact ih hw
    · rename_i hd
      split at hw
      · rename_i he
        exact absurd he (cutAt_ne_nil p s)
      · rename_i v ws he
        rcases List.mem_cons.mp hw with rfl | hw
        · intro c hc
          rcases List.mem_cons.mp hc with rfl | hc
          · simpa using hd
          · exact ih (he ▸ List.mem_cons_self) c hc
        · exact ih (he ▸ List.mem_cons_of_mem _ hw)

/-- The pieces make up the text again. -/
theorem eq_append_of_cutAt {c : Char} {w : List Char} {ws : List (List Char)}
    (h : cutAt (fun d => d == c) s = w :: ws) : s = w ++ ws.flatMap fun v => c :: v := by
  induction s generalizing w ws with
  | nil =>
    cases h
    rfl
  | cons d s ih =>
    rw [cutAt] at h
    split at h
    · rename_i hd
      obtain ⟨rfl, rfl⟩ := List.cons.inj h
      obtain ⟨v, vs, hv⟩ := List.exists_cons_of_ne_nil (cutAt_ne_nil (fun d => d == c) s)
      rw [hv, List.flatMap_cons, eq_of_beq hd, List.nil_append, List.cons_append, ← ih hv]
    · split at h
      · rename_i hn
        exact absurd hn (cutAt_ne_nil _ s)
      · rename_i v vs hv
        cases h
        rw [List.cons_append, ← ih hv]

theorem cutFirst_append {c : Char} (h : c ∉ s) (t : List Char) :
    cutFirst c (s ++ c :: t) = some (s, t) := by
  induction s with
  | nil => simp [cutFirst]
  | cons d s ih =>
    have hd : d ≠ c := fun hd => h (hd ▸ List.mem_cons_self)
    simp [cutFirst, hd, ih fun hs => h (List.mem_cons_of_mem _ hs)]

theorem eq_append_of_cutFirst {c : Char} {l r : List Char} (h : cutFirst c s = some (l, r)) :
    s = l ++ c :: r ∧ c ∉ l := by
  induction s generalizing l with
  | nil => cases h
  | cons d s ih =>
    rw [cutFirst] at h
    split at h
    · rename_i hd
      cases h
      exact ⟨by rw [hd]; rfl, by simp⟩
    · rename_i hd
      obtain ⟨⟨l', r'⟩, hl, he⟩ := Option.map_eq_some_iff.mp h
      cases he
      obtain ⟨rfl, hc⟩ := ih hl
      exact ⟨rfl, by simp [hc, Ne.symm hd]⟩

theorem exists_cutFirst {c : Char} (h : c ∈ s) : ∃ l r, cutFirst c s = some (l, r) := by
  obtain ⟨l, r, rfl, hl⟩ := List.eq_append_cons_of_mem h
  exact ⟨l, r, cutFirst_append hl r⟩

theorem cutFirst_eq_none_iff {c : Char} : cutFirst c s = none ↔ c ∉ s := by
  constructor
  · intro h hc
    obtain ⟨l, r, hs⟩ := exists_cutFirst hc
    rw [h] at hs
    cases hs
  · intro h
    by_contra hn
    obtain ⟨⟨l, r⟩, hs⟩ := Option.ne_none_iff_exists'.mp hn
    rw [(eq_append_of_cutFirst hs).1] at h
    exact h (by simp)

/-- Stripped text is cut where it is cut unstripped. -/
theorem exists_cutFirst_strip {c : Char} (hc : p c = false) {l r : List Char}
    (h : cutFirst c (strip p s) = some (l, r)) :
    ∃ l' r', cutFirst c s = some (l', r') ∧ strip p l' = strip p l ∧ strip p r' = strip p r := by
  obtain ⟨he, hl⟩ := eq_append_of_cutFirst h
  obtain ⟨front, back, hs, hfront, hback⟩ := exists_strip p s
  have hnot : c ∉ front ++ l := by
    rw [List.mem_append, not_or]
    refine ⟨fun hm => ?_, hl⟩
    rw [hfront c hm] at hc
    cases hc
  have hcut : s = (front ++ l) ++ c :: (r ++ back) := by
    rw [hs, he]
    simp
  refine ⟨front ++ l, r ++ back, ?_, strip_append_left hfront l, strip_append_right hback r⟩
  rw [hcut, cutFirst_append hnot]

/-! Lower case. -/

theorem toNat_toLower (c : Char) :
    c.toLower.toNat = if 65 ≤ c.toNat ∧ c.toNat ≤ 90 then c.toNat + 32 else c.toNat := by
  have hle : (c.val ≥ 'A'.val ∧ c.val ≤ 'Z'.val) ↔ (65 ≤ c.toNat ∧ c.toNat ≤ 90) := by
    rw [ge_iff_le, UInt32.le_iff_toNat_le, UInt32.le_iff_toNat_le]
    rfl
  by_cases h : c.val ≥ 'A'.val ∧ c.val ≤ 'Z'.val
  · have hl : c.toLower.toNat = (c.val + ('a'.val - 'A'.val)).toNat :=
      congrArg Char.toNat (dif_pos h)
    have hc : c.val.toNat ≤ 90 := (hle.mp h).2
    have hd : ('a'.val - 'A'.val).toNat = 32 := rfl
    rw [hl, if_pos (hle.mp h), UInt32.toNat_add, hd, Nat.mod_eq_of_lt (by omega)]
    rfl
  · have hl : c.toLower = c := dif_neg h
    rw [hl, if_neg (mt hle.mpr h)]

theorem toLower_toLower (c : Char) : c.toLower.toLower = c.toLower := by
  rw [← Char.toNat_inj, toNat_toLower c.toLower, if_neg]
  rw [toNat_toLower]
  split <;> omega

theorem map_toLower_idem (s : List Char) :
    (s.map Char.toLower).map Char.toLower = s.map Char.toLower := by
  rw [List.map_map]
  exact List.map_congr_left fun c _ => toLower_toLower c

/-- A sign comes from no letter. -/
theorem toLower_eq_iff {c d : Char} (hd : d.toNat < 65) : c.toLower = d ↔ c = d := by
  rw [← Char.toNat_inj, toNat_toLower, ← Char.toNat_inj]
  split <;> omega

theorem mem_map_toLower_iff {d : Char} (hd : d.toNat < 65) :
    d ∈ s.map Char.toLower ↔ d ∈ s := by
  simp [toLower_eq_iff hd]

theorem not_mem_map_toLower {d : Char} (hd : d.toNat < 65) (h : d ∉ s) :
    d ∉ s.map Char.toLower :=
  (mem_map_toLower_iff hd).not.mpr h

theorem isBlank_toLower (c : Char) : isBlank c.toLower = isBlank c := by
  rw [isBlank, isBlank, toNat_toLower]
  split
  · rw [Bool.eq_iff_iff]
    simp only [Bool.or_eq_true, Bool.and_eq_true, decide_eq_true_eq, beq_iff_eq]
    omega
  · rfl

theorem strip_map_toLower (s : List Char) :
    strip isBlank (s.map Char.toLower) = (strip isBlank s).map Char.toLower := by
  have hp : isBlank ∘ Char.toLower = isBlank := funext isBlank_toLower
  simp only [strip, List.dropWhile_map, ← List.map_reverse, hp]

theorem Stripped.map_toLower (h : Stripped isBlank s) : Stripped isBlank (s.map Char.toLower) := by
  simpa [Stripped, isBlank_toLower] using h

end OneShot
