import OneShot.Fault.Io

/-! A tree of files and folders, and the paths through it. A path is walked from the root as it is
written: an empty name and a dot stay, two dots go up, and nothing leads on from a file. -/

namespace OneShot

inductive FileTree
  | file (content : ByteArray)
  | sealed (fault : IoFault)
  | folder (entries : List (String × FileTree))

abbrev Path := List String

namespace Path

def fault? (path : Path) : Option IoFault :=
  if path.any fun name => name.toList.contains '\x00' then some .zeroInName
  else if 4096 ≤ path.foldl (fun size name => size + name.utf8ByteSize + 1) 0 then some .nameTooLong
  else none

def trimEnd (path : Path) : Path :=
  (path.reverse.dropWhile fun name => name == "" || name == ".").reverse

def parent (path : Path) : Path :=
  trimEnd (trimEnd path).dropLast

theorem length_trimEnd_le (path : Path) : (trimEnd path).length ≤ path.length := by
  have h := (List.dropWhile_suffix (fun name => name == "" || name == ".")
    (l := path.reverse)).length_le
  simpa [trimEnd] using h

theorem length_parent_lt {path : Path} (h : trimEnd path ≠ []) :
    (parent path).length < path.length := by
  have h₁ := length_trimEnd_le (trimEnd path).dropLast
  have h₂ := length_trimEnd_le path
  have h₃ := List.length_pos_iff.2 h
  simp only [List.length_dropLast] at h₁
  simp only [parent]
  omega

end Path

/-- Where something is: the names of the folders from the root, then its own. -/
abbrev Place := List String

namespace FileTree

instance : Inhabited FileTree := ⟨folder []⟩

def child? (entries : List (String × FileTree)) (name : String) : Option FileTree :=
  (entries.find? fun e => e.1 == name).map Prod.snd

/-- Puts a tree under a name in place of what was there. -/
def setChild (name : String) (tree : FileTree) :
    List (String × FileTree) → List (String × FileTree)
  | [] => [(name, tree)]
  | (n, t) :: rest => if n = name then (name, tree) :: rest else (n, t) :: setChild name tree rest

def at? : FileTree → Place → Option FileTree
  | tree, [] => some tree
  | file _, _ :: _ => none
  | sealed _, _ :: _ => none
  | folder entries, name :: place =>
    match child? entries name with
    | some tree => tree.at? place
    | none => none

def put (new : FileTree) : FileTree → Place → FileTree
  | _, [] => new
  | file content, _ :: _ => file content
  | sealed fault, _ :: _ => sealed fault
  | folder entries, name :: place =>
    folder (setChild name (put new ((child? entries name).getD (folder [])) place) entries)

theorem child?_setChild_self (name : String) (tree : FileTree)
    (entries : List (String × FileTree)) :
    child? (setChild name tree entries) name = some tree := by
  induction entries with
  | nil => simp [setChild, child?]
  | cons e entries ih =>
    by_cases h : e.1 = name
    · simp [setChild, child?, h]
    · simpa [setChild, child?, h] using ih

theorem child?_setChild_of_ne {name other : String} (hne : other ≠ name) (tree : FileTree)
    (entries : List (String × FileTree)) :
    child? (setChild name tree entries) other = child? entries other := by
  induction entries with
  | nil => simp [setChild, child?, hne.symm]
  | cons e entries ih =>
    by_cases h : e.1 = name
    · simp [setChild, child?, h, hne.symm]
    · by_cases ho : e.1 = other
      · simp [setChild, child?, ho, hne]
      · simpa [setChild, child?, h, ho] using ih

theorem at?_put_append {tree : FileTree} {place : Place} {entries : List (String × FileTree)}
    (new : FileTree) (name : String) (h : tree.at? place = some (folder entries)) :
    (put new tree (place ++ [name])).at? (place ++ [name]) = some new := by
  induction place generalizing tree with
  | nil =>
    simp only [at?, Option.some.injEq] at h
    subst h
    simp [put, at?, child?_setChild_self]
  | cons first place ih =>
    cases tree with
    | file content => simp [at?] at h
    | sealed fault => simp [at?] at h
    | folder all =>
      cases hc : child? all first with
      | none => simp [at?, hc] at h
      | some tree =>
        have ht : tree.at? place = some (folder entries) := by simpa [at?, hc] using h
        simp [put, at?, hc, child?_setChild_self, ih ht]

def entriesAt (tree : FileTree) (place : Place) : Except IoFault (List (String × FileTree)) :=
  match tree.at? place with
  | some (folder entries) => .ok entries
  | _ => .error .notADirectory

/-- Names that are longer in bytes are refused. -/
def longestName : Nat := 255

def step (entries : List (String × FileTree)) (place : Place) (name : String) :
    Except IoFault Place :=
  if name = "" ∨ name = "." then .ok place
  else if name = ".." then .ok place.dropLast
  else if longestName < name.utf8ByteSize then .error .nameTooLong
  else if (child? entries name).isSome then .ok (place ++ [name])
  else .error .notFound

def walk (tree : FileTree) (place : Place) : Path → Except IoFault Place
  | [] => .ok place
  | name :: path => do
    let entries ← tree.entriesAt place
    let place ← step entries place name
    tree.walk place path

/-- Where a new entry comes to lie: a folder, and a name that is free or taken there. The last name
of a path may not be one that only walks. -/
structure Slot where
  place : Place
  name : String
  found : Option FileTree

def slot (tree : FileTree) (path : Path) : Except IoFault (Option Slot) := do
  if let some fault := path.fault? then throw fault
  let place ← tree.walk [] path.dropLast
  let entries ← tree.entriesAt place
  match path.getLast? with
  | none => return none
  | some name =>
    if name = "" ∨ name = "." ∨ name = ".." then return none
    else if longestName < name.utf8ByteSize then throw .nameTooLong
    else return some ⟨place, name, child? entries name⟩

def lookup (tree : FileTree) (path : Path) : Except IoFault FileTree := do
  if let some fault := path.fault? then throw fault
  let place ← tree.walk [] path
  match tree.at? place with
  | some found => return found
  | none => throw .notFound

def isFolder (tree : FileTree) (path : Path) : Bool :=
  match tree.lookup path with
  | .ok (folder _) => true
  | _ => false

def read (tree : FileTree) (path : Path) : Except IoFault ByteArray := do
  match ← tree.lookup path with
  | file content => return content
  | sealed fault => throw fault
  | folder _ => throw .isADirectory

def write (content : ByteArray) (tree : FileTree) (path : Path) : Except IoFault FileTree := do
  match ← tree.slot path with
  | none | some ⟨_, _, some (folder _)⟩ => throw .isADirectory
  | some ⟨_, _, some (sealed fault)⟩ => throw fault
  | some ⟨place, name, _⟩ => return put (file content) tree (place ++ [name])

/-- Makes a folder in a folder that is there. Empty names at the end of the path do not count. -/
def makeFolder (tree : FileTree) (path : Path) : Except IoFault FileTree := do
  match ← tree.slot (path.reverse.dropWhile fun name => name == "").reverse with
  | some ⟨place, name, none⟩ => return put (folder []) tree (place ++ [name])
  | _ => throw .alreadyExists

def haveFolder (tree : FileTree) (path : Path) : Except IoFault FileTree :=
  match tree.makeFolder path with
  | .ok tree => .ok tree
  | .error fault => if tree.isFolder path then .ok tree else .error fault

/-- Makes the folders of a path that are not there, from the first one missing down. The tree has
what was made before a fault. -/
def makeFolders (tree : FileTree) (path : Path) : Except IoFault Unit × FileTree :=
  match tree.haveFolder path with
  | .ok tree => (.ok (), tree)
  | .error fault =>
    if h : fault.kind = .notFound ∧ path.trimEnd ≠ [] then
      have := Path.length_parent_lt h.2
      match makeFolders tree path.parent with
      | (.error fault, tree) => (.error fault, tree)
      | (.ok (), tree) =>
        match tree.haveFolder path with
        | .ok tree => (.ok (), tree)
        | .error fault => (.error fault, tree)
    else (.error fault, tree)
termination_by path.length

end FileTree

end OneShot
