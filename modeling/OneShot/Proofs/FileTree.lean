import OneShot.FileTree
import OneShot.Proofs.Json.Written

/-! What a tree keeps when something is put into it: its folders, with at least the names they had, so
that paths lead where they led. What is written is found, and folders that are missing can be made. -/

namespace OneShot.FileTree

/-- A name that something can have, and that does not only walk. -/
structure Plain (name : String) : Prop where
  nonempty : name ≠ ""
  notDot : name ≠ "."
  notDots : name ≠ ".."
  short : name.utf8ByteSize ≤ longestName

/-- Every folder of one tree is a folder of another, with the same names or more. -/
def Within (tree tree' : FileTree) : Prop :=
  ∀ place entries, tree.at? place = some (folder entries) →
    ∃ entries', tree'.at? place = some (folder entries') ∧
      ∀ name, (child? entries name).isSome → (child? entries' name).isSome

variable {tree tree' new : FileTree} {entries : List (String × FileTree)} {name : String}
  {place last : Place} {path : Path}

theorem at?_folder_cons (entries : List (String × FileTree)) (name : String) (place : Place) :
    (folder entries).at? (name :: place) = (child? entries name).bind fun tree => tree.at? place := by
  rw [at?]
  cases child? entries name <;> rfl

theorem at?_append (tree : FileTree) (place rest : Place) :
    tree.at? (place ++ rest) = (tree.at? place).bind fun tree => tree.at? rest := by
  induction place generalizing tree with
  | nil => rfl
  | cons name place ih =>
    cases tree with
    | file content => rfl
    | sealed fault => rfl
    | folder entries =>
      rw [List.cons_append, at?_folder_cons, at?_folder_cons, Option.bind_assoc]
      simp only [ih]

theorem at?_ne_folder (ht : ∀ es, tree ≠ folder es) :
    tree.at? place ≠ some (folder entries) := by
  cases tree with
  | folder es => exact absurd rfl (ht es)
  | file content => cases place <;> simp [at?]
  | sealed fault => cases place <;> simp [at?]

theorem isSome_child?_setChild {other : String} (h : (child? entries other).isSome) :
    (child? (setChild name new entries) other).isSome := by
  by_cases ho : other = name
  · rw [ho, child?_setChild_self]
    rfl
  · rwa [child?_setChild_of_ne ho]

theorem within_put (new : FileTree) (h : tree.at? place = some (folder entries))
    (hn : ∀ es, child? entries name ≠ some (folder es)) :
    tree.Within (put new tree (place ++ [name])) := by
  induction place generalizing tree with
  | nil =>
    cases h
    intro q es hq
    cases q with
    | nil =>
      cases hq
      exact ⟨_, rfl, fun _ => isSome_child?_setChild⟩
    | cons m q =>
      rw [at?_folder_cons] at hq
      obtain ⟨t, ht, hq⟩ := Option.bind_eq_some_iff.mp hq
      have hm : m ≠ name := by
        rintro rfl
        exact at?_ne_folder (fun es he => hn es (he ▸ ht)) hq
      refine ⟨es, ?_, fun _ => id⟩
      change (folder (setChild name new entries)).at? (m :: q) = _
      rw [at?_folder_cons, child?_setChild_of_ne hm, ht]
      exact hq
  | cons first place ih =>
    cases tree with
    | file content => cases h
    | sealed fault => cases h
    | folder all =>
      rw [at?_folder_cons] at h
      obtain ⟨t, ht, hrest⟩ := Option.bind_eq_some_iff.mp h
      have hput : put new (folder all) (first :: place ++ [name]) =
          folder (setChild first (put new t (place ++ [name])) all) := by
        rw [List.cons_append, put, ht]
        rfl
      rw [hput]
      -- A place that leads elsewhere at the first name is left alone.
      intro q es hq
      cases q with
      | nil =>
        cases hq
        exact ⟨_, rfl, fun _ => isSome_child?_setChild⟩
      | cons m q =>
        rw [at?_folder_cons] at hq ⊢
        by_cases hm : m = first
        · subst hm
          rw [ht] at hq
          rw [child?_setChild_self]
          exact ih hrest q es hq
        · rw [child?_setChild_of_ne hm]
          exact ⟨es, hq, fun _ => id⟩

/-! Walking. -/

theorem entriesAt_eq_ok_iff :
    tree.entriesAt place = .ok entries ↔ tree.at? place = some (folder entries) := by
  rw [entriesAt]
  split
  · rename_i es h
    rw [h, Except.ok.injEq, Option.some.injEq, folder.injEq]
  · rename_i h
    exact ⟨nofun, fun he => absurd he (h entries)⟩

theorem step_of_names {entries' : List (String × FileTree)}
    (h : ∀ name, (child? entries name).isSome → (child? entries' name).isSome)
    (hs : step entries place name = .ok last) : step entries' place name = .ok last := by
  rw [step] at hs ⊢
  by_cases h₁ : name = "" ∨ name = "."
  · rwa [if_pos h₁] at hs ⊢
  rw [if_neg h₁] at hs ⊢
  by_cases h₂ : name = ".."
  · rwa [if_pos h₂] at hs ⊢
  rw [if_neg h₂] at hs ⊢
  by_cases h₃ : longestName < name.utf8ByteSize
  · rwa [if_pos h₃] at hs ⊢
  rw [if_neg h₃] at hs ⊢
  by_cases h₄ : (child? entries name).isSome = true
  · rw [if_pos h₄] at hs
    rwa [if_pos (h name h₄)]
  · rw [if_neg h₄] at hs
    cases hs

theorem Within.walk (h : tree.Within tree') (hw : tree.walk place path = .ok last) :
    tree'.walk place path = .ok last := by
  induction path generalizing place with
  | nil => exact hw
  | cons name path ih =>
    obtain ⟨entries, he, hw⟩ := Json.exists_of_bind_eq_ok hw
    obtain ⟨next, hs, hw⟩ := Json.exists_of_bind_eq_ok hw
    obtain ⟨entries', he', hn⟩ := h place entries (entriesAt_eq_ok_iff.mp he)
    rw [FileTree.walk, entriesAt_eq_ok_iff.mpr he', Json.bind_ok, step_of_names hn hs]
    exact ih hw

theorem walk_append (tree : FileTree) (place : Place) (path path' : Path) :
    tree.walk place (path ++ path') = tree.walk place path >>= fun next => tree.walk next path' := by
  induction path generalizing place with
  | nil => rfl
  | cons name path ih =>
    simp only [List.cons_append, FileTree.walk, bind_assoc, ih]

theorem step_plain (hn : Plain name) (entries : List (String × FileTree)) (place : Place) :
    step entries place name =
      if (child? entries name).isSome then .ok (place ++ [name]) else .error .notFound := by
  rw [step, if_neg (not_or.mpr ⟨hn.nonempty, hn.notDot⟩), if_neg hn.notDots,
    if_neg (Nat.not_lt.mpr hn.short)]

theorem walk_append_plain (hn : Plain name) (hw : tree.walk [] path = .ok place)
    (hf : tree.at? place = some (folder entries)) :
    tree.walk [] (path ++ [name]) =
      if (child? entries name).isSome then .ok (place ++ [name]) else .error .notFound := by
  rw [walk_append, hw, Json.bind_ok, FileTree.walk, entriesAt_eq_ok_iff.mpr hf, Json.bind_ok,
    step_plain hn]
  split <;> rfl

/-- What has been put under a free name, or in place of a file, is where the path leads now. -/
theorem walk_put (hn : Plain name) (hw : tree.walk [] path = .ok place)
    (hf : tree.at? place = some (folder entries))
    (hc : ∀ es, child? entries name ≠ some (folder es)) (new : FileTree) :
    (put new tree (place ++ [name])).walk [] (path ++ [name]) = .ok (place ++ [name]) ∧
      (put new tree (place ++ [name])).at? (place ++ [name]) = some new := by
  have hat := at?_put_append new name hf
  have hwithin := within_put new hf hc
  obtain ⟨entries', hf', -⟩ := hwithin place entries hf
  have hchild : child? entries' name = some new := by
    rw [at?_append, hf', Option.bind_some, at?_folder_cons] at hat
    obtain ⟨t, ht, he⟩ := Option.bind_eq_some_iff.mp hat
    rwa [← Option.some.inj he]
  refine ⟨?_, hat⟩
  rw [walk_append_plain hn (hwithin.walk hw) hf', hchild]
  rfl

/-! Slots and what is put into them. -/

theorem slot_append (hn : Plain name) (tree : FileTree) (path : Path) :
    tree.slot (path ++ [name]) =
      match Path.fault? (path ++ [name]) with
      | some fault => .error fault
      | none => tree.walk [] path >>= fun place => tree.entriesAt place >>= fun entries =>
          .ok (some ⟨place, name, child? entries name⟩) := by
  have hwalks : ¬ (name = "" ∨ name = "." ∨ name = "..") :=
    not_or.mpr ⟨hn.nonempty, not_or.mpr ⟨hn.notDot, hn.notDots⟩⟩
  have hshort : ¬ longestName < name.utf8ByteSize := Nat.not_lt.mpr hn.short
  simp only [slot, List.dropLast_concat, List.getLast?_concat, hwalks, hshort, if_false]
  cases Path.fault? (path ++ [name]) with
  | some fault => rfl
  | none => rfl

/-- A path whose last name is plain, and whose other names lead to a folder. -/
structure Leads (tree : FileTree) (path : Path) (name : String) (place : Place)
    (entries : List (String × FileTree)) : Prop where
  plain : Plain name
  sound : Path.fault? (path ++ [name]) = none
  walk : tree.walk [] path = .ok place
  folder : tree.at? place = some (folder entries)

theorem slot_of_leads (h : Leads tree path name place entries) :
    tree.slot (path ++ [name]) = .ok (some ⟨place, name, child? entries name⟩) := by
  rw [slot_append h.plain, h.sound, h.walk, Json.bind_ok, entriesAt_eq_ok_iff.mpr h.folder]
  rfl

theorem exists_leads {slot : Slot} (hn : Plain name)
    (h : tree.slot (path ++ [name]) = .ok (some slot)) :
    ∃ place entries, Leads tree path name place entries ∧
      slot = ⟨place, name, child? entries name⟩ := by
  rw [slot_append hn] at h
  cases hs : Path.fault? (path ++ [name]) with
  | some fault =>
    rw [hs] at h
    cases h
  | none =>
    rw [hs] at h
    obtain ⟨place, hw, h⟩ := Json.exists_of_bind_eq_ok h
    obtain ⟨entries, he, h⟩ := Json.exists_of_bind_eq_ok h
    cases h
    exact ⟨place, entries, ⟨hn, hs, hw, entriesAt_eq_ok_iff.mp he⟩, rfl⟩

theorem lookup_put (h : Leads tree path name place entries)
    (hc : ∀ es, child? entries name ≠ some (folder es)) (new : FileTree) :
    (put new tree (place ++ [name])).lookup (path ++ [name]) = .ok new := by
  obtain ⟨hw, hat⟩ := walk_put h.plain h.walk h.folder hc new
  simp only [lookup, h.sound, hw, Json.bind_ok, hat]
  rfl

theorem lookup_of_write {content : ByteArray} (hn : Plain name)
    (h : tree.write content (path ++ [name]) = .ok tree') :
    tree'.lookup (path ++ [name]) = .ok (file content) := by
  obtain ⟨slot?, hslot, h⟩ := Json.exists_of_bind_eq_ok h
  cases slot? with
  | none => cases h
  | some slot =>
    obtain ⟨place, entries, hl, rfl⟩ := exists_leads hn hslot
    split at h
    · cases h
    · cases h
    · cases h
    · rename_i hfolder _ he
      cases he
      cases h
      exact lookup_put hl hfolder (file content)

theorem write_of_leads {content : ByteArray} (h : Leads tree path name place entries)
    (hfree : ∀ t, child? entries name = some t → ∃ old, t = file old) :
    tree.write content (path ++ [name]) = .ok (put (file content) tree (place ++ [name])) := by
  rw [write, slot_of_leads h, Json.bind_ok]
  cases hc : child? entries name with
  | none => rfl
  | some t =>
    obtain ⟨old, rfl⟩ := hfree t hc
    rfl

/-! Folders that are made. -/

/-- A path to a folder, or to one that would be there if folders were made at the end of the path. -/
inductive Open (tree : FileTree) : Path → Prop
  | there {path : Path} {place : Place} {entries : List (String × FileTree)}
      (hw : tree.walk [] path = .ok place) (hf : tree.at? place = some (folder entries)) :
      Open tree path
  | missing {path : Path} {name : String} (h : Open tree path) (hn : Plain name)
      (hm : tree.walk [] (path ++ [name]) = .error .notFound) : Open tree (path ++ [name])

theorem dropWhile_empty_append (hn : name ≠ "") (path : Path) :
    ((path ++ [name]).reverse.dropWhile fun name => name == "").reverse = path ++ [name] := by
  simp [hn]

theorem haveFolder_of_free (h : Leads tree path name place entries)
    (hc : child? entries name = none) :
    tree.haveFolder (path ++ [name]) = .ok (put (folder []) tree (place ++ [name])) := by
  have hm : tree.makeFolder (path ++ [name]) = .ok (put (folder []) tree (place ++ [name])) := by
    rw [makeFolder, dropWhile_empty_append h.plain.nonempty, slot_of_leads h, Json.bind_ok, hc]
    rfl
  rw [haveFolder, hm]

theorem haveFolder_of_missing (hn : Plain name) (hs : Path.fault? (path ++ [name]) = none)
    (hm : tree.walk [] path = .error .notFound) :
    tree.haveFolder (path ++ [name]) = .error .notFound := by
  have hmake : tree.makeFolder (path ++ [name]) = .error .notFound := by
    rw [makeFolder, dropWhile_empty_append hn.nonempty, slot_append hn, hs, hm]
    rfl
  have hl : tree.lookup (path ++ [name]) = .error .notFound := by
    simp only [lookup, hs, walk_append, hm]
    rfl
  rw [haveFolder, hmake, isFolder, hl]
  rfl

theorem trimEnd_append (hn : Plain name) (path : Path) :
    Path.trimEnd (path ++ [name]) = path ++ [name] := by
  simp [Path.trimEnd, hn.nonempty, hn.notDot]

theorem parent_append (hn : Plain name) {last : String} (hl : Plain last) (path : Path) :
    Path.parent (path ++ [last] ++ [name]) = path ++ [last] := by
  rw [Path.parent, trimEnd_append hn, List.dropLast_concat, trimEnd_append hl]

theorem fault?_of_append (h : Path.fault? (path ++ [name]) = none) : Path.fault? path = none := by
  rw [Path.fault?] at h ⊢
  split at h
  · cases h
  rename_i hzero
  split at h
  · cases h
  rename_i hlong
  rw [List.any_append, Bool.or_eq_true, not_or] at hzero
  rw [List.foldl_append, List.foldl_cons, List.foldl_nil] at hlong
  rw [if_neg hzero.1, if_neg (by omega)]

theorem child?_of_walk_error (hn : Plain name) (hw : tree.walk [] path = .ok place)
    (hf : tree.at? place = some (folder entries))
    (hm : tree.walk [] (path ++ [name]) = .error .notFound) : child? entries name = none := by
  rw [walk_append_plain hn hw hf] at hm
  split at hm
  · cases hm
  · rename_i hc
    exact Option.not_isSome_iff_eq_none.mp hc

theorem walk_put_folder (h : Leads tree path name place entries)
    (hc : child? entries name = none) :
    (put (folder []) tree (place ++ [name])).walk [] (path ++ [name]) = .ok (place ++ [name]) ∧
      (put (folder []) tree (place ++ [name])).at? (place ++ [name]) = some (folder []) :=
  walk_put h.plain h.walk h.folder (fun es he => by rw [hc] at he; cases he) (folder [])

theorem makeFolders_of_open (h : Open tree path) (hm : tree.walk [] path = .error .notFound)
    (hs : Path.fault? path = none) :
    ∃ tree' place, tree.makeFolders path = (.ok (), tree') ∧ tree'.walk [] path = .ok place ∧
      tree'.at? place = some (folder []) := by
  induction h with
  | there hw hf =>
    rw [hw] at hm
    cases hm
  | @missing path name h hn hmiss ih =>
    have hs' := fault?_of_append hs
    cases h with
    | there hw hf =>
      have hc := child?_of_walk_error hn hw hf hmiss
      have hl : Leads tree path name _ _ := ⟨hn, hs, hw, hf⟩
      refine ⟨_, _, ?_, walk_put_folder hl hc⟩
      rw [makeFolders, haveFolder_of_free hl hc]
    | @missing path last h hlast hm' =>
      -- The folder that the new one belongs in is made first.
      obtain ⟨tree', place, hmake, hw, hf⟩ := ih hm' hs'
      have hl : Leads tree' (path ++ [last]) name place [] := ⟨hn, hs, hw, hf⟩
      have htrim : Path.trimEnd (path ++ [last] ++ [name]) ≠ [] := by
        rw [trimEnd_append hn]
        exact List.concat_ne_nil _ _
      refine ⟨_, _, ?_, walk_put_folder hl rfl⟩
      rw [makeFolders, haveFolder_of_missing hn hs hm']
      simp only [parent_append hn hlast, hmake, haveFolder_of_free hl rfl]
      rw [dif_pos ⟨rfl, htrim⟩]

end OneShot.FileTree
