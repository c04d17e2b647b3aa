import OneShot.Stream

/-! Sinks that take every write take all the bytes that are put into them, whatever pieces they take
them in. -/

namespace OneShot

/-- Whether a sink takes every write: at once, in pieces, or when it is asked again. -/
def SinkKind.accepts : SinkKind → Bool
  | .accepting | .short | .pieces _ | .interrupted | .failingFlush => true
  | .stuck | .failing | .panicking => false

namespace Sink

/-- A sink that has been interrupted is not interrupted again. -/
theorem attempt_of_accepts {kind : SinkKind} {earlier size : Nat} (h : kind.accepts = true)
    (hi : kind ≠ .interrupted ∨ earlier ≠ 0) (hs : 0 < size) :
    ∃ count, count < size ∧ attempt kind earlier size = .took (count + 1) := by
  cases kind with
  | accepting | failingFlush => exact ⟨size - 1, by omega, by simp only [attempt]; congr; omega⟩
  | short => exact ⟨min 3 size - 1, by omega, by simp only [attempt]; congr; omega⟩
  | pieces sizes =>
    exact ⟨min (sizes.getD earlier size + 1) size - 1, by omega,
      by simp only [attempt]; congr; omega⟩
  | interrupted =>
    have he : earlier ≠ 0 := hi.resolve_left (fun hne => hne rfl)
    exact ⟨size - 1, by omega, by simp only [attempt, he, if_false]; congr; omega⟩
  | stuck | failing | panicking => cases h

theorem writeLoop_of_accepts {n : Nat} {sink : Sink} {data : ByteArray}
    (h : sink.kind.accepts = true) (hi : sink.kind ≠ .interrupted ∨ sink.writes ≠ 0)
    (hn : data.size ≤ n) :
    ∃ after, writeLoop n sink data = (.done (), after) ∧ after.kind = sink.kind ∧
      after.bytes = sink.bytes ++ data := by
  have hnil : data.size = 0 → sink.bytes = sink.bytes ++ data := by
    intro hz
    rw [ByteArray.size_eq_zero_iff.mp hz, ByteArray.append_empty]
  induction n generalizing sink data with
  | zero => exact ⟨sink, rfl, rfl, hnil (by omega)⟩
  | succ n ih =>
    by_cases hz : data.size = 0
    · exact ⟨sink, by simp only [writeLoop, hz, if_true], rfl, hnil hz⟩
    · obtain ⟨count, hc, ha⟩ := attempt_of_accepts h hi (Nat.pos_of_ne_zero hz)
      -- What is left is shorter by the count, so the bound on the writes still holds.
      let taken : Sink := { sink with
        writes := sink.writes + 1, bytes := sink.bytes ++ data.extract 0 (count + 1) }
      have hr : (data.extract (count + 1) data.size).size ≤ n := by
        rw [ByteArray.size_extract]
        omega
      have ht : taken.kind.accepts = true := h
      obtain ⟨after, hw, hk, hb⟩ := ih ht (.inr (Nat.succ_ne_zero _)) hr
        (fun hz => by rw [ByteArray.size_eq_zero_iff.mp hz, ByteArray.append_empty])
      refine ⟨after, ?_, hk, ?_⟩
      · simp only [writeLoop, hz, if_false, ha]
        exact hw
      · rw [hb, ByteArray.append_assoc, ByteArray.extract_append_extract, Nat.min_eq_left (by omega),
          Nat.max_eq_right (by omega), ByteArray.extract_zero_size]

theorem writeAll_of_accepts {sink : Sink} (h : sink.kind.accepts = true) (data : ByteArray) :
    ∃ after, sink.writeAll data = (.done (), after) ∧ after.kind = sink.kind ∧
      after.bytes = sink.bytes ++ data := by
  by_cases hk : sink.kind = .interrupted ∧ sink.writes = 0
  · by_cases hz : data.size = 0
    · refine ⟨sink, by simp only [writeAll, writeLoop, hz, if_true], rfl, ?_⟩
      rw [ByteArray.size_eq_zero_iff.mp hz, ByteArray.append_empty]
    · -- The interruption uses up one write of the bound and takes nothing.
      let asked : Sink := { sink with writes := sink.writes + 1 }
      have hs : asked.kind.accepts = true := h
      obtain ⟨after, hw, ha⟩ :=
        writeLoop_of_accepts hs (.inr (Nat.succ_ne_zero _)) (Nat.le_refl data.size)
      have he : attempt sink.kind sink.writes data.size = .interrupted := by
        rw [hk.1, hk.2]
        rfl
      refine ⟨after, ?_, ha⟩
      simp only [writeAll, writeLoop, hz, if_false, he]
      exact hw
  · have hi : sink.kind ≠ .interrupted ∨ sink.writes ≠ 0 :=
      Decidable.not_and_iff_not_or_not.mp hk
    exact writeLoop_of_accepts h hi (Nat.le_succ _)

/-- All the bytes are taken, also by a sink that refuses the flush after them. -/
theorem put_of_accepts {sink : Sink} (h : sink.kind.accepts = true) (data : ByteArray) :
    ∃ after, after.bytes = sink.bytes ++ data ∧ sink.put data =
      (if sink.kind = .failingFlush then .failed (.io flushFault) else .done (), after) := by
  obtain ⟨after, hw, hk, hb⟩ := writeAll_of_accepts h data
  refine ⟨{ after with flushes := after.flushes + 1 }, hb, ?_⟩
  simp only [put, hw, flush, hk]
  cases sink.kind <;> rfl

/-- A sink that has been written to without a fault has taken all the bytes, whatever its kind. -/
theorem writeAll_bytes_of_done {sink after : Sink} {data : ByteArray}
    (h : sink.writeAll data = (.done (), after)) : after.bytes = sink.bytes ++ data := by
  by_cases ha : sink.kind.accepts = true
  · obtain ⟨after', hw, -, hb⟩ := writeAll_of_accepts ha data
    rw [hw] at h
    cases h
    exact hb
  · by_cases hz : data.size = 0
    · simp only [writeAll, writeLoop, hz, if_true] at h
      cases h
      rw [ByteArray.size_eq_zero_iff.mp hz, ByteArray.append_empty]
    · -- Of these only a sink that has panicked before takes anything, and it takes all at once.
      obtain ⟨size, hs⟩ := Nat.exists_eq_add_one_of_ne_zero hz
      have hr : (data.extract data.size data.size).size = 0 := by simp
      cases hk : sink.kind with
      | stuck | failing =>
        simp only [writeAll, writeLoop, hz, if_false, attempt, hk] at h
        cases h
      | panicking =>
        by_cases hw : sink.writes = 0
        · simp only [writeAll, writeLoop, hz, if_false, attempt, hk, hw, if_true] at h
          cases h
        · simp only [writeAll, writeLoop, hz, if_false, attempt, hk, hw] at h
          rw [hs] at h hr
          simp only [writeLoop, hr, if_true] at h
          cases h
          rw [← hs, ByteArray.extract_zero_size]
      | accepting | short | pieces | interrupted | failingFlush =>
        rw [hk] at ha
        exact absurd rfl ha

theorem put_bytes_of_done {sink after : Sink} {data : ByteArray}
    (h : sink.put data = (.done (), after)) : after.bytes = sink.bytes ++ data := by
  rw [put] at h
  split at h
  · rename_i written hw
    have hb := writeAll_bytes_of_done hw
    rw [flush] at h
    split at h
    · cases h
    · cases h
      exact hb
  · rename_i hne
    exact absurd h (hne after)

end Sink

end OneShot
