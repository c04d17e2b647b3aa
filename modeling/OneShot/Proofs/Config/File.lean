import OneShot.Proofs.Config.Overlay

/-! What a folder is loaded as, by what lies there under the name of the configuration file: nothing, a
folder, a file that cannot be read or is no text, a text that is no configuration, or a configuration,
with exit codes that a host can tell apart or with others. -/

namespace OneShot

open Json

namespace ExitCodes

/-- The texts of exit codes. An object may have other members, of any form; an array has the codes in
order and may end early. A code that is not given is zero, one or two. -/
inductive IsText (text : List Char) : ExitCodes → Prop
  | object {members : List (String × List Char)} {success error noData : Option UInt8}
      (h : IsObject IsName text members)
      (hs : Given IsCode "success" members success)
      (he : Given IsCode "error" members error)
      (hn : Given IsCode "no_data" members noData)
      (hu : ∀ m ∈ members, m.1 ∉ ["success", "error", "no_data"] → WellFormed m.2) :
      IsText text ⟨success.getD 0, error.getD 1, noData.getD 2⟩
  | array {items : List (List Char)} {success error noData : Option UInt8}
      (h : IsArray text items) (hl : items.length ≤ 3)
      (hs : Option.Rel IsCode items[0]? success)
      (he : Option.Rel IsCode items[1]? error)
      (hn : Option.Rel IsCode items[2]? noData) :
      IsText text ⟨success.getD 0, error.getD 1, noData.getD 2⟩

/-- What is wrong with exit codes. The first that is wrong counts. -/
inductive Wrong (codes : ExitCodes) : Fault → Prop
  | success (h : codes.success ≠ 0) : Wrong codes (.successNotZero codes.success)
  | failure (hs : codes.success = 0) (h : codes.error = 0 ∨ codes.noData = 0) :
      Wrong codes .failureZero
  | equal (hs : codes.success = 0) (he : codes.error ≠ 0) (h : codes.error = codes.noData) :
      Wrong codes (.failuresEqual codes.error)

theorem validate_eq_error_iff {codes : ExitCodes} {fault : Fault} :
    codes.validate = .error fault ↔ codes.Wrong fault := by
  constructor
  · intro h
    rw [validate] at h
    split at h
    · rename_i hs
      cases h
      exact .success hs
    · rename_i hs
      have hs : codes.success = 0 := Decidable.not_not.mp hs
      split at h
      · rename_i hz
        cases h
        exact .failure hs hz
      · rename_i hz
        split at h
        · rename_i he
          cases h
          exact .equal hs (not_or.mp hz).1 he
        · cases h
  · rintro (h | ⟨hs, h⟩ | ⟨hs, he, h⟩)
    · rw [validate, if_pos h]
    · rw [validate, if_neg (not_not_intro hs), if_pos h]
    · have hz : ¬ (codes.error = 0 ∨ codes.noData = 0) := not_or.mpr ⟨he, h ▸ he⟩
      rw [validate, if_neg (not_not_intro hs), if_neg hz, if_pos h]

theorem isText_iff {text : List Char} {codes : ExitCodes} :
    IsText text codes ↔ RecordOf record slots text codes := by
  constructor
  · rintro (@⟨_, success, error, noData, h, hs, he, hn, hu⟩ |
      @⟨_, success, error, noData, h, hl, hs, he, hn⟩)
    · exact (recordOf_three_iff rfl rfl rfl).mpr
        ⟨⟨success, error, noData⟩, rfl, .inl ⟨_, h, hs, he, hn, hu⟩⟩
    · exact (recordOf_three_iff rfl rfl rfl).mpr
        ⟨⟨success, error, noData⟩, rfl, .inr ⟨_, h, hl, hs, he, hn⟩⟩
  · intro ht
    obtain ⟨d, ha, ⟨_, h, hs, he, hn, hu⟩ | ⟨_, h, hl, hs, he, hn⟩⟩ :=
      (recordOf_three_iff rfl rfl rfl).mp ht
    · cases ha
      exact .object h hs he hn hu
    · cases ha
      exact .array h hl hs he hn

end ExitCodes

namespace Config

/-- The texts of a configuration, as an object or as an array. What is not given is standard. -/
inductive IsText (text : List Char) : Config → Prop
  | object {members : List (String × List Char)} {name : Option String} {codes : Option ExitCodes}
      {filter : Option (Option String)}
      (h : IsObject IsName text members)
      (hn : Given IsString "function_name" members name)
      (hc : Given ExitCodes.IsText "exit_codes" members codes)
      (hf : Given (Nullable IsString) "log_filter" members filter)
      (hu : ∀ m ∈ members, m.1 ∉ ["function_name", "exit_codes", "log_filter"] → WellFormed m.2) :
      IsText text ⟨name.getD "function", codes.getD ⟨0, 1, 2⟩, filter.getD none⟩
  | array {items : List (List Char)} {name : Option String} {codes : Option ExitCodes}
      {filter : Option (Option String)}
      (h : IsArray text items) (hl : items.length ≤ 3)
      (hn : Option.Rel IsString items[0]? name)
      (hc : Option.Rel ExitCodes.IsText items[1]? codes)
      (hf : Option.Rel (Nullable IsString) items[2]? filter) :
      IsText text ⟨name.getD "function", codes.getD ⟨0, 1, 2⟩, filter.getD none⟩

theorem isText_iff {text : List Char} {config : Config} :
    IsText text config ↔ RecordOf record slots text config := by
  have hcodes : ExitCodes.IsText = RecordOf ExitCodes.record ExitCodes.slots :=
    funext fun _ => funext fun _ => propext ExitCodes.isText_iff
  constructor
  · rintro (@⟨_, name, codes, filter, h, hn, hc, hf, hu⟩ |
      @⟨_, name, codes, filter, h, hl, hn, hc, hf⟩)
    · rw [hcodes] at hc
      exact (recordOf_three_iff rfl rfl rfl).mpr
        ⟨⟨name, codes, filter⟩, rfl, .inl ⟨_, h, hn, hc, hf, hu⟩⟩
    · rw [hcodes] at hc
      exact (recordOf_three_iff rfl rfl rfl).mpr
        ⟨⟨name, codes, filter⟩, rfl, .inr ⟨_, h, hl, hn, hc, hf⟩⟩
  · intro ht
    obtain ⟨d, ha, ⟨_, h, hn, hc, hf, hu⟩ | ⟨_, h, hl, hn, hc, hf⟩⟩ :=
      (recordOf_three_iff rfl rfl rfl).mp ht
    · cases ha
      exact .object h hn (hcodes ▸ hc) hf hu
    · cases ha
      exact .array h hl hn (hcodes ▸ hc) hf

theorem whole_eq_ok_iff {s : String} {config : Config} :
    whole record.read s = .ok config ↔ ∃ text, Padded text s.toList ∧ IsText text config := by
  simp only [isText_iff]
  exact slotted.recognizes_read.whole_eq_ok_iff

/-- What a folder is loaded as, by what lies there under the name of the file. -/
inductive Loaded (tree : FileTree) (folder : Path) : Except OneShot.Fault Config → Prop
  | absent {fault : IoFault} (h : tree.lookup (folder ++ ["function.json"]) = .error fault) :
      Loaded tree folder (.ok ⟨"function", ⟨0, 1, 2⟩, none⟩)
  | folder {entries : List (String × FileTree)}
      (h : tree.lookup (folder ++ ["function.json"]) = .ok (.folder entries)) :
      Loaded tree folder (.error (.io .isADirectory))
  | unreadable {fault : IoFault}
      (h : tree.lookup (folder ++ ["function.json"]) = .ok (.sealed fault)) :
      Loaded tree folder (.error (.io fault))
  | notText {content : ByteArray}
      (h : tree.lookup (folder ++ ["function.json"]) = .ok (.file content))
      (hc : ∀ s : String, s.toUTF8 ≠ content) : Loaded tree folder (.error (.io .notUtf8))
  | malformed {s : String} {flaw : Flaw}
      (h : tree.lookup (folder ++ ["function.json"]) = .ok (.file s.toUTF8))
      (ht : ∀ text config, Padded text s.toList → ¬ IsText text config) :
      Loaded tree folder (.error (.serialization flaw))
  | invalid {s : String} {text : List Char} {config : Config} {fault : ExitCodes.Fault}
      (h : tree.lookup (folder ++ ["function.json"]) = .ok (.file s.toUTF8))
      (hp : Padded text s.toList) (ht : IsText text config) (hw : config.exitCodes.Wrong fault) :
      Loaded tree folder (.error (.config (.exitCodes fault)))
  | valid {s : String} {text : List Char} {config : Config}
      (h : tree.lookup (folder ++ ["function.json"]) = .ok (.file s.toUTF8))
      (hp : Padded text s.toList) (ht : IsText text config) (hv : config.exitCodes.Valid) :
      Loaded tree folder (.ok config)

section

variable {tree : FileTree} {folder : Path}

theorem loaded_load : Loaded tree folder (load tree folder) := by
  cases h : tree.lookup (folder ++ [fileName]) with
  | error fault =>
    simp only [load, h]
    exact .absent h
  | ok found =>
    cases found with
    | folder entries =>
      simp only [load, h]
      exact .folder h
    | «sealed» fault =>
      simp only [load, h]
      exact .unreadable h
    | file content =>
      cases hs : String.fromUTF8? content with
      | none =>
        simp only [load, h, ofBytes, hs]
        exact .notText h (fromUTF8?_eq_none_iff.mp hs)
      | some s =>
        obtain rfl := eq_toUTF8_of_fromUTF8? hs
        cases hw : whole record.read s with
        | error flaw =>
          rw [load_of_error h hw]
          refine .malformed h fun text config hp ht => ?_
          rw [whole_eq_ok_iff.mpr ⟨text, hp, ht⟩] at hw
          cases hw
        | ok config =>
          obtain ⟨text, hp, ht⟩ := whole_eq_ok_iff.mp hw
          rw [load_of_ok h hw, reloaded]
          cases hv : config.exitCodes.validate with
          | error fault => exact .invalid h hp ht (ExitCodes.validate_eq_error_iff.mp hv)
          | ok => exact .valid h hp ht (ExitCodes.validate_eq_ok_iff.mp hv)

/-- A folder is loaded in one way, up to the flaw in a text that is no configuration. -/
theorem Loaded.toOption_eq {loaded : Except OneShot.Fault Config} (h : Loaded tree folder loaded) :
    loaded.toOption = (load tree folder).toOption := by
  cases h with
  | absent h =>
    simp only [load, fileName, h]
    rfl
  | folder h => simp only [load, fileName, h]
  | unreadable h => simp only [load, fileName, h]
  | notText h hc => simp only [load, fileName, h, ofBytes, fromUTF8?_eq_none_iff.mpr hc]
  | @malformed s _ h ht =>
    cases hw : whole record.read s with
    | error flaw =>
      rw [load_of_error h hw]
      rfl
    | ok config =>
      obtain ⟨text, hp, htext⟩ := whole_eq_ok_iff.mp hw
      exact absurd htext (ht text config hp)
  | invalid h hp ht hw =>
    rw [load_of_ok h (whole_eq_ok_iff.mpr ⟨_, hp, ht⟩), reloaded,
      ExitCodes.validate_eq_error_iff.mpr hw]
  | valid h hp ht hv =>
    rw [load_of_ok h (whole_eq_ok_iff.mpr ⟨_, hp, ht⟩), reloaded,
      ExitCodes.validate_eq_ok_iff.mpr hv]

end

end Config

end OneShot
