import OneShot.Proofs.Arguments.Bytes
import OneShot.Proofs.Config
import OneShot.Proofs.DataType
import OneShot.Proofs.FileTree
import OneShot.Proofs.Json.Lines

/-! A configuration that has been saved: the file has all that there is to it, so it is loaded as it was,
or refused for its exit codes, which are not checked before. -/

namespace OneShot

open Json

namespace ExitCodes

theorem lined_code (code : UInt8) : Lined readCode (codeText code) code where
  read_skipSpace s := by
    have hb : IntKind.u8.bits ≠ 128 := by decide
    simp only [readCode, readInt, if_neg hb, readNarrow, skipSpace_skipSpace]
  read_append r hr := by
    obtain ⟨n, ht, hn⟩ := exists_num code
    rw [ht, readCode, readInt_decimalInt n hr.endsNumber]
    exact congrArg (fun code => Except.ok (code, r)) hn

theorem lined (codes : ExitCodes) (level : Nat) :
    Lined record.read (objectLines level codes.members) codes :=
  Record.lined (.field rfl rfl (lined_code codes.success)
    (.field rfl rfl (lined_code codes.error) (.field rfl rfl (lined_code codes.noData) .nil))) rfl

end ExitCodes

namespace Config

theorem lined_filter (filter : Option String) :
    Lined (readOption readString) (filterText filter) filter := by
  cases filter with
  | none => exact lined_none
  | some filter => exact lined_some_quote filter

theorem lined (c : Config) : Lined record.read c.fileText c :=
  Record.lined (.field rfl rfl (lined_quote c.functionName)
    (.field rfl rfl (c.exitCodes.lined 1) (.field rfl rfl (lined_filter c.logFilter) .nil))) rfl

theorem ofBytes_fileText (c : Config) : ofBytes (String.ofList c.fileText).toUTF8 = c.reloaded := by
  rw [ofBytes, fromUTF8?_toUTF8]
  simp only [c.lined.whole_eq]
  rw [reloaded]
  cases c.exitCodes.validate <;> rfl

theorem plain_fileName : FileTree.Plain fileName :=
  ⟨by decide, by decide, by decide, by decide⟩

/-- A folder that a configuration can be saved in: it is there or can be made, and nothing but a file is
in the way. -/
structure Savable (tree : FileTree) (folder : Path) : Prop where
  reachable : tree.Open folder
  sound : Path.fault? (folder ++ [fileName]) = none
  free : ∀ place entries, tree.walk [] folder = .ok place →
    tree.at? place = some (.folder entries) →
      ∀ t, FileTree.child? entries fileName = some t → ∃ old, t = .file old

theorem exists_write_of_save {c : Config} {tree : FileTree} {folder : Path}
    (h : (c.save tree folder).1 = .ok ()) :
    ∃ opened : FileTree, opened.write (String.ofList c.fileText).toUTF8 (folder ++ [fileName]) =
      .ok (c.save tree folder).2 := by
  rw [save] at h ⊢
  generalize (if (tree.lookup folder).isOk then (.ok (), tree) else tree.makeFolders folder :
    Except IoFault Unit × FileTree) = opened at h ⊢
  obtain ⟨made, opened⟩ := opened
  cases made with
  | error fault => cases h
  | ok =>
    refine ⟨opened, ?_⟩
    cases hw : opened.write (String.ofList c.fileText).toUTF8 (folder ++ [fileName]) with
    | error fault =>
      simp only [hw] at h
      cases h
    | ok after => simp only [hw]

theorem load_of_write {c : Config} {tree tree' : FileTree} {folder : Path}
    (h : tree.write (String.ofList c.fileText).toUTF8 (folder ++ [fileName]) = .ok tree') :
    load tree' folder = c.reloaded := by
  rw [load, FileTree.lookup_of_write plain_fileName h]
  exact c.ofBytes_fileText

theorem lookup_of_walk_error {tree : FileTree} {folder : Path}
    (hs : Path.fault? folder = none) (hm : tree.walk [] folder = .error .notFound) :
    (tree.lookup folder).isOk = false := by
  simp only [FileTree.lookup, hs, hm]
  rfl

theorem lookup_of_walk {tree : FileTree} {folder : Path} {place : Place}
    {entries : List (String × FileTree)} (hs : Path.fault? folder = none)
    (hw : tree.walk [] folder = .ok place) (hf : tree.at? place = some (.folder entries)) :
    (tree.lookup folder).isOk = true := by
  simp only [FileTree.lookup, hs, hw, bind_ok, hf]
  rfl

theorem save_of_savable {tree : FileTree} {folder : Path} (h : Savable tree folder) (c : Config) :
    (c.save tree folder).1 = .ok () := by
  have hs := FileTree.fault?_of_append h.sound
  cases h.reachable with
  | there hw hf =>
    have hl : FileTree.Leads tree folder fileName _ _ := ⟨plain_fileName, h.sound, hw, hf⟩
    simp only [save, lookup_of_walk hs hw hf, if_true,
      FileTree.write_of_leads hl (h.free _ _ hw hf)]
  | missing hopen hn hm =>
    obtain ⟨opened, place, hmake, hw, hf⟩ := FileTree.makeFolders_of_open h.reachable hm hs
    have hl : FileTree.Leads opened _ fileName place [] := ⟨plain_fileName, h.sound, hw, hf⟩
    simp only [save, lookup_of_walk_error hs hm, Bool.false_eq_true, if_false, hmake,
      FileTree.write_of_leads hl nofun]

/-- A configuration can be saved wherever its folder is there or can be made, whatever file was there
before, and is then loaded as it was if its exit codes are valid; else loading fails with what is wrong
with them. No others are ever loaded, from any file. -/
theorem save_then_load (c : Config) (tree : FileTree) (folder : Path) :
    (Savable tree folder → (c.save tree folder).1 = .ok ()) ∧
    ((c.save tree folder).1 = .ok () →
      load (c.save tree folder).2 folder =
        match c.exitCodes.validate with
        | .ok () => .ok c
        | .error fault => .error (.config (.exitCodes fault))) ∧
    ∀ config, load tree folder = .ok config → config.exitCodes.Valid := by
  refine ⟨fun h => save_of_savable h c, fun h => ?_, fun _ h => load_valid h⟩
  obtain ⟨opened, hw⟩ := exists_write_of_save h
  exact load_of_write hw

/-- Two folders are made, and the file has a name over two lines; equal failure codes are not loaded. -/
theorem save_then_load_nested :
    let tree : FileTree := .folder [("home", .folder [("notes", .file ByteArray.empty)])]
    let folder : Path := ["home", "jobs", "nightly"]
    let c : Config := ⟨"two\n\"lines\"", ⟨0, 10, 66⟩, some ""⟩
    let d : Config := { c with exitCodes := ⟨0, 7, 7⟩ }
    Savable tree folder ∧ (c.save tree folder).1 = .ok () ∧
      load (c.save tree folder).2 folder = .ok c ∧
      (d.save tree folder).1 = .ok () ∧
      load (d.save tree folder).2 folder = .error (.config (.exitCodes (.failuresEqual 7))) := by
  intro tree folder c d
  have hhome : tree.Open ["home"] := .there rfl rfl
  have hjobs : tree.Open (["home"] ++ ["jobs"]) :=
    .missing hhome ⟨by decide, by decide, by decide, by decide⟩ rfl
  have hopen : tree.Open folder :=
    .missing hjobs ⟨by decide, by decide, by decide, by decide⟩ rfl
  have hmissing : tree.walk [] folder = .error .notFound := rfl
  have hs : Savable tree folder := by
    refine ⟨hopen, by decide, ?_⟩
    intro place entries hw
    rw [hmissing] at hw
    cases hw
  obtain ⟨hc, hload, -⟩ := save_then_load c tree folder
  obtain ⟨hd, hrefused, -⟩ := save_then_load d tree folder
  exact ⟨hs, hc hs, hload (hc hs), hd hs, hrefused (hd hs)⟩

end Config

end OneShot
