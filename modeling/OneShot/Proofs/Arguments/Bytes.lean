import OneShot.Arguments

/-! The text at the head of a byte string. An ASCII character in front of it becomes its first
character, and what follows is cut as it would be alone. -/

namespace OneShot

theorem fromUTF8?_toUTF8 (s : String) : String.fromUTF8? s.toUTF8 = some s :=
  dif_pos s.isValidUTF8

theorem eq_toUTF8_of_fromUTF8? {bytes : ByteArray} {s : String}
    (h : String.fromUTF8? bytes = some s) : bytes = s.toUTF8 := by
  rw [String.fromUTF8?] at h
  split at h
  · cases h
    rfl
  · cases h

theorem fromUTF8?_eq_none_iff {bytes : ByteArray} :
    String.fromUTF8? bytes = none ↔ ∀ s : String, s.toUTF8 ≠ bytes := by
  constructor
  · rintro h s rfl
    rw [fromUTF8?_toUTF8] at h
    cases h
  · intro h
    cases hs : String.fromUTF8? bytes with
    | none => rfl
    | some s => exact absurd (eq_toUTF8_of_fromUTF8? hs).symm (h s)

namespace Arguments

theorem utf8_ofList (cs : List Char) :
    utf8 (String.ofList cs) = cs.flatMap String.utf8EncodeChar := by
  simp [utf8, String.toUTF8, List.utf8Encode]

theorem utf8_cons (c : Char) (cs : List Char) :
    utf8 (String.ofList (c :: cs)) = String.utf8EncodeChar c ++ utf8 (String.ofList cs) := by
  rw [utf8_ofList, utf8_ofList, List.flatMap_cons]

theorem fromUTF8?_eq_some_iff {v : Bytes} {s : String} :
    String.fromUTF8? ⟨v.toArray⟩ = some s ↔ utf8 s = v := by
  constructor
  · intro h
    rw [utf8, ← eq_toUTF8_of_fromUTF8? h]
  · rintro rfl
    exact fromUTF8?_toUTF8 s

theorem isSome_fromUTF8?_cons {c : Char} (hc : c.utf8Size = 1) (v : Bytes) :
    (String.fromUTF8? ⟨(c.toUInt8 :: v).toArray⟩).isSome =
      (String.fromUTF8? ⟨v.toArray⟩).isSome := by
  have hv : (⟨(c.toUInt8 :: v).toArray⟩ : ByteArray) = [c].utf8Encode ++ ⟨v.toArray⟩ := by
    rw [List.utf8Encode_singleton, String.utf8EncodeChar_eq_singleton hc]
    refine ByteArray.ext ?_
    simp
  have hs : ∀ b : ByteArray, (String.fromUTF8? b).isSome = true ↔ b.IsValidUTF8 := by
    intro b
    simp [String.fromUTF8?]
  rw [Bool.eq_iff_iff, hs, hs, hv, ByteArray.isValidUTF8_utf8Encode_singleton_append_iff]

/-- Where the longest text at the head of a byte string ends. -/
def textEnd? (b : Bytes) : Option Nat :=
  (List.range (b.length + 1)).reverse.find? fun n =>
    (String.fromUTF8? ⟨(b.take n).toArray⟩).isSome

theorem exists_textEnd (b : Bytes) : ∃ n s, textEnd? b = some n ∧ utf8 s = b.take n := by
  have h : (textEnd? b).isSome = true := by
    rw [textEnd?, List.find?_isSome]
    exact ⟨0, by simp, rfl⟩
  obtain ⟨n, hn⟩ := Option.isSome_iff_exists.mp h
  have hp := List.find?_some hn
  obtain ⟨s, hs⟩ := Option.isSome_iff_exists.mp hp
  exact ⟨n, s, hn, fromUTF8?_eq_some_iff.mp hs⟩

theorem splitUtf8_of_textEnd {b : Bytes} {n : Nat} {s : String} (h : textEnd? b = some n)
    (hs : utf8 s = b.take n) : splitUtf8 b = (s.toList, b.drop n) := by
  rw [textEnd?] at h
  have hf := fromUTF8?_eq_some_iff.mpr hs
  simp only [splitUtf8, h, Option.getD_some, hf]

theorem splitUtf8_append (b : Bytes) :
    utf8 (String.ofList (splitUtf8 b).1) ++ (splitUtf8 b).2 = b := by
  obtain ⟨n, s, hn, hs⟩ := exists_textEnd b
  rw [splitUtf8_of_textEnd hn hs, String.ofList_toList, hs, List.take_append_drop]

theorem textEnd?_cons {c : Char} (hc : c.utf8Size = 1) (b : Bytes) :
    textEnd? (c.toUInt8 :: b) = (textEnd? b).map (· + 1) := by
  obtain ⟨n, s, hn, -⟩ := exists_textEnd b
  have hp : (fun n => (String.fromUTF8? ⟨((c.toUInt8 :: b).take n).toArray⟩).isSome) ∘ Nat.succ =
      fun n => (String.fromUTF8? ⟨(b.take n).toArray⟩).isSome :=
    funext fun n => isSome_fromUTF8?_cons hc (b.take n)
  -- The ends are tried from the longest down, so the empty text is the last one of both.
  rw [hn, textEnd?, List.length_cons, List.range_succ_eq_map, List.reverse_cons, ← List.map_reverse,
    List.find?_append, List.find?_map, hp]
  rw [textEnd?] at hn
  rw [hn]
  rfl

theorem splitUtf8_cons {c : Char} (hc : c.utf8Size = 1) (b : Bytes) :
    splitUtf8 (c.toUInt8 :: b) = (c :: (splitUtf8 b).1, (splitUtf8 b).2) := by
  obtain ⟨n, s, hn, hs⟩ := exists_textEnd b
  have hu : utf8 (String.ofList (c :: s.toList)) = (c.toUInt8 :: b).take (n + 1) := by
    rw [utf8_cons, String.utf8EncodeChar_eq_singleton hc, String.ofList_toList, hs]
    rfl
  rw [splitUtf8_of_textEnd ((textEnd?_cons hc b).trans (congrArg _ hn)) hu,
    splitUtf8_of_textEnd hn hs, String.toList_ofList]
  rfl

end Arguments

end OneShot
