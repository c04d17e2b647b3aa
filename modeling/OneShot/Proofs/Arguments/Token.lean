import OneShot.Proofs.Arguments.Bytes
import OneShot.Proofs.Arguments.Grammar
import OneShot.Proofs.Json.Written

/-! One argument. What is done with it is what it says, and one that says nothing is refused. -/

namespace OneShot.Arguments

def Progress.setFlag (p : Progress) (debug : Bool) : Except ArgumentFault Progress :=
  if debug then p.setDebug else .ok p

/-- What a token makes of the progress so far. -/
def Token.apply (p : Progress) : Token → Except ArgumentFault Step
  | .flag => do
    let p ← p.setDebug
    return .next p
  | .attached debug v => do
    let p ← p.setFlag debug
    Arguments.attached p v
  | .wanting debug => do
    let p ← p.setFlag debug
    let p ← p.settle
    return .wantValue p

/-- Short options, the dash in front of them left out. -/
def shorts (p : Progress) (b : Bytes) : Except ArgumentFault Step :=
  cluster p (splitUtf8 b).1 (splitUtf8 b).2

theorem shorts_flag (p : Progress) (b : Bytes) :
    shorts p (0x64 :: b) = p.setDebug >>= fun p => shorts p b := by
  have hs : splitUtf8 (0x64 :: b) = ('d' :: (splitUtf8 b).1, (splitUtf8 b).2) :=
    splitUtf8_cons (c := 'd') rfl b
  rw [shorts, hs, cluster, if_pos rfl]
  rfl

theorem shorts_option (p : Progress) :
    shorts p [0x78] = p.settle >>= fun p => .ok (.wantValue p) :=
  rfl

theorem shorts_value (p : Progress) {v : Bytes} (h : v ≠ []) :
    shorts p (0x78 :: v) = attached p (afterEquals v) := by
  have hs : splitUtf8 (0x78 :: v) = ('x' :: (splitUtf8 v).1, (splitUtf8 v).2) :=
    splitUtf8_cons (c := 'x') rfl v
  rw [shorts, hs, cluster, if_neg (by decide), if_pos rfl, splitUtf8_append]
  split
  · exact absurd rfl h
  · rfl
  · rename_i hne
    rw [afterEquals]
    exact hne

theorem shorts_stray (p : Progress) {b : UInt8} (hd : b ≠ 0x64) (hx : b ≠ 0x78) (v : Bytes) :
    ∃ fault, shorts p (b :: v) = .error fault := by
  have hb := splitUtf8_append (b :: v)
  rw [shorts]
  generalize splitUtf8 (b :: v) = cut at hb ⊢
  obtain ⟨cs, invalid⟩ := cut
  cases cs with
  | nil =>
    cases hb
    exact ⟨_, rfl⟩
  | cons c cs =>
    rw [utf8_cons] at hb
    have hcd : c ≠ 'd' := by
      rintro rfl
      exact hd (List.cons.inj hb).1.symm
    have hcx : c ≠ 'x' := by
      rintro rfl
      exact hx (List.cons.inj hb).1.symm
    exact ⟨_, by rw [cluster, if_neg hcd, if_neg hcx]⟩

theorem option_shorts (p : Progress) {b : UInt8} (hb : b ≠ 0x2D) (v : Bytes) :
    option p (0x2D :: b :: v) = shorts p (b :: v) := by
  rw [option.eq_def, shorts]
  split
  · rename_i h
    exact absurd (List.cons.inj (List.cons.inj h).2).1 hb
  · rename_i h
    cases h
    generalize splitUtf8 (b :: v) = cut
    rfl
  · rename_i h
    exact absurd rfl (h b v)

theorem long_debug (p : Progress) :
    long p (utf8 "debug") = p.setDebug >>= fun p => .ok (.next p) := by
  have ht : (utf8 "debug").takeWhile (fun b => b != 0x3D) = utf8 "debug" := by decide
  have hd : (utf8 "debug").dropWhile (fun b => b != 0x3D) = [] := by decide
  simp only [long, ht, hd, if_true]
  rfl

theorem long_data (p : Progress) :
    long p (utf8 "data") = p.settle >>= fun p => .ok (.wantValue p) := by
  have hname : utf8 "data" ≠ utf8 "debug" := by decide
  have ht : (utf8 "data").takeWhile (fun b => b != 0x3D) = utf8 "data" := by decide
  have hd : (utf8 "data").dropWhile (fun b => b != 0x3D) = [] := by decide
  simp only [long, ht, hd, hname, if_false, if_true]
  rfl

theorem long_value (p : Progress) (v : Bytes) : long p (utf8 "data=" ++ v) = attached p v := by
  have hname : utf8 "data" ≠ utf8 "debug" := by decide
  have hb : utf8 "data=" ++ v = utf8 "data" ++ 0x3D :: v := rfl
  have hn : ∀ b ∈ utf8 "data", (b != 0x3D) = true := List.all_eq_true.mp (by decide)
  have ht : (utf8 "data=" ++ v).takeWhile (fun b => b != 0x3D) = utf8 "data" := by
    rw [hb, List.takeWhile_append_of_pos hn]
    exact List.append_nil _
  have hd : (utf8 "data=" ++ v).dropWhile (fun b => b != 0x3D) = 0x3D :: v := by
    rw [hb, List.dropWhile_append_of_pos hn]
    rfl
  simp only [long, ht, hd, hname, if_false, if_true]

theorem option_of_reads {argument : Bytes} {t : Token} (h : Reads argument t) (p : Progress) :
    option p argument = t.apply p := by
  cases h with
  | flag => exact long_debug p
  | shortFlag =>
    change option p [0x2D, 0x64] = _
    rw [option_shorts p (by decide), shorts_flag]
    rfl
  | value v => exact long_value p v
  | @shortValue debug v hv =>
    cases debug with
    | false =>
      change option p (0x2D :: 0x78 :: v) = _
      rw [option_shorts p (by decide), shorts_value p hv]
      rfl
    | true =>
      change option p (0x2D :: 0x64 :: 0x78 :: v) = _
      rw [option_shorts p (by decide), shorts_flag]
      simp only [shorts_value _ hv]
      rfl
  | option => exact long_data p
  | shortOption debug =>
    cases debug with
    | false =>
      change option p [0x2D, 0x78] = _
      rw [option_shorts p (by decide), shorts_option]
      rfl
    | true =>
      change option p [0x2D, 0x64, 0x78] = _
      rw [option_shorts p (by decide), shorts_flag]
      rfl

theorem setData_eq_ok_iff {p q : Progress} {v : Bytes} :
    p.setData v = .ok q ↔ p.data = none ∧ ∃ s, utf8 s = v ∧ q = { p with data := some s } := by
  rw [Progress.setData]
  cases hd : p.data with
  | some s => simp
  | none =>
    cases hv : String.fromUTF8? ⟨v.toArray⟩ with
    | none =>
      have hn : ∀ s, utf8 s ≠ v := by
        intro s hs
        rw [fromUTF8?_eq_some_iff.mpr hs] at hv
        cases hv
      simp [hn]
    | some s =>
      have hs : ∀ t, utf8 t = v ↔ s = t := by
        intro t
        rw [← fromUTF8?_eq_some_iff, hv, Option.some.injEq]
      simp [hs, eq_comm]

theorem settle_of_none {p : Progress} (h : p.pending = none) : p.settle = .ok p := by
  rw [Progress.settle, h]

theorem pending_of_settle {p q : Progress} (h : p.settle = .ok q) : q.pending = none := by
  rw [Progress.settle] at h
  split at h
  · cases h
    assumption
  · obtain ⟨-, s, -, rfl⟩ := setData_eq_ok_iff.mp h
    rfl

theorem debug_of_settle {p q : Progress} (h : p.settle = .ok q) : q.debug = p.debug := by
  rw [Progress.settle] at h
  split at h
  · cases h
    rfl
  · obtain ⟨-, s, -, rfl⟩ := setData_eq_ok_iff.mp h
    rfl

theorem debug_of_setDebug {p q : Progress} (h : p.setDebug = .ok q) : q.debug = true := by
  obtain ⟨r, -, hq⟩ := Json.exists_of_bind_eq_ok h
  split at hq
  · cases hq
  · cases hq
    rfl

theorem setDebug_ne_ok {p : Progress} (hp : p.debug = true) (q : Progress) :
    p.setDebug ≠ .ok q := by
  intro h
  obtain ⟨r, hr, hq⟩ := Json.exists_of_bind_eq_ok h
  rw [if_pos ((debug_of_settle hr).trans hp)] at hq
  cases hq

theorem exists_reads_option (debug : Bool) (v : Bytes) : ∃ t, Reads (clusterHead debug ++ v) t := by
  by_cases hv : v = []
  · rw [hv, List.append_nil]
    exact ⟨_, .shortOption debug⟩
  · exact ⟨_, .shortValue debug hv⟩

theorem exists_reads_shorts {p : Progress} {b : UInt8} {v : Bytes} {step : Step}
    (h : shorts p (b :: v) = .ok step) : ∃ t, Reads (0x2D :: b :: v) t := by
  by_cases hx : b = 0x78
  · subst hx
    exact exists_reads_option false v
  by_cases hd : b = 0x64
  · subst hd
    rw [shorts_flag] at h
    obtain ⟨q, hq, h⟩ := Json.exists_of_bind_eq_ok h
    cases v with
    | nil => exact ⟨_, .shortFlag⟩
    | cons c v =>
      by_cases hcx : c = 0x78
      · subst hcx
        exact exists_reads_option true v
      -- The flag is set already, so that it cannot come once more in the cluster.
      by_cases hcd : c = 0x64
      · subst hcd
        rw [shorts_flag] at h
        obtain ⟨r, hr, -⟩ := Json.exists_of_bind_eq_ok h
        exact absurd hr (setDebug_ne_ok (debug_of_setDebug hq) r)
      · obtain ⟨fault, hf⟩ := shorts_stray q hcd hcx v
        rw [hf] at h
        cases h
  · obtain ⟨fault, hf⟩ := shorts_stray p hd hx v
    rw [hf] at h
    cases h

theorem exists_reads_long {p : Progress} {body : Bytes} {step : Step}
    (h : long p body = .ok step) : ∃ t, Reads (0x2D :: 0x2D :: body) t := by
  have hb := List.takeWhile_append_dropWhile (p := fun b => b != 0x3D) (l := body)
  have hhead := List.head?_dropWhile_not (fun b => b != 0x3D) body
  rw [long] at h
  generalize body.takeWhile (fun b => b != 0x3D) = name at hb h
  generalize body.dropWhile (fun b => b != 0x3D) = tail at hb hhead h
  subst hb
  cases tail with
  | nil =>
    rw [List.append_nil]
    by_cases hdebug : name = utf8 "debug"
    · subst hdebug
      exact ⟨_, .flag⟩
    by_cases hdata : name = utf8 "data"
    · subst hdata
      exact ⟨_, .option⟩
    · simp only [hdebug, hdata, if_false] at h
      cases h
  | cons c v =>
    obtain rfl : c = 0x3D := by simpa using hhead
    by_cases hdebug : name = utf8 "debug"
    · simp only [hdebug, if_true] at h
      cases h
    by_cases hdata : name = utf8 "data"
    · subst hdata
      exact ⟨_, .value v⟩
    · simp only [hdebug, hdata, if_false] at h
      cases h

theorem exists_reads {p : Progress} {argument : Bytes} {step : Step}
    (h : option p argument = .ok step) : ∃ t, Reads argument t := by
  rw [option.eq_def] at h
  split at h
  · exact exists_reads_long h
  · exact exists_reads_shorts h
  · cases h

end OneShot.Arguments
