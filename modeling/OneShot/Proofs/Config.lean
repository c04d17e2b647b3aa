import OneShot.Config
import OneShot.Exit

/-! Exit codes that a host can tell apart are the only ones that a configuration is loaded with. -/

namespace OneShot

/-- Exit codes that a host can tell apart, with success as it is agreed on. -/
structure ExitCodes.Valid (codes : ExitCodes) : Prop where
  success : codes.success = 0
  error : codes.error ≠ 0
  noData : codes.noData ≠ 0
  distinct : codes.error ≠ codes.noData

theorem ExitCodes.validate_eq_ok_iff {codes : ExitCodes} :
    codes.validate = .ok () ↔ codes.Valid := by
  constructor
  · intro h
    rw [validate] at h
    split at h
    · cases h
    · rename_i hs
      split at h
      · cases h
      · rename_i hz
        split at h
        · cases h
        · rename_i hd
          rw [not_or] at hz
          exact ⟨Decidable.not_not.mp hs, hz.1, hz.2, hd⟩
  · intro h
    simp only [validate, h.success, h.error, h.noData, h.distinct, ne_eq, not_true, or_self, if_false]

theorem ExitCodes.Valid.ofStatus_code_inj {codes : ExitCodes} (h : codes.Valid) {s t : ExitStatus} :
    (Exit.ofStatus s codes).code = (Exit.ofStatus t codes).code ↔ s = t := by
  cases s <;> cases t <;>
    simp [Exit.ofStatus, h.success, h.error, h.error.symm, h.noData, h.noData.symm, h.distinct,
      h.distinct.symm]

namespace Config

/-- What a file that holds a configuration loads as. -/
def reloaded (c : Config) : Except Fault Config :=
  match c.exitCodes.validate with
  | .ok () => .ok c
  | .error fault => .error (.config (.exitCodes fault))

theorem ofBytes_valid {content : ByteArray} {config : Config} (h : ofBytes content = .ok config) :
    config.exitCodes.Valid := by
  rw [ofBytes] at h
  split at h
  · cases h
  · split at h
    · cases h
    · split at h
      · cases h
      · rename_i hv
        cases h
        exact ExitCodes.validate_eq_ok_iff.mp hv

theorem load_valid {tree : FileTree} {folder : Path} {config : Config}
    (h : load tree folder = .ok config) : config.exitCodes.Valid := by
  rw [load] at h
  split at h
  · cases h
    exact ExitCodes.validate_eq_ok_iff.mp rfl
  · cases h
  · cases h
  · exact ofBytes_valid h

end Config

end OneShot
