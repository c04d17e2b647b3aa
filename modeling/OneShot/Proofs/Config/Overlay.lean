import OneShot.Proofs.Arguments.Bytes
import OneShot.Proofs.Config
import OneShot.Proofs.DataType
import OneShot.Proofs.Json.Integers
import OneShot.Proofs.Json.Records

/-! Configuration files that leave members out. What such a file gives replaces what is standard, and
the exit codes are checked after that, so a code that is given may collide with one that is not. -/

namespace OneShot

open Json

namespace ExitCodes

def IsCode (text : List Char) (code : UInt8) : Prop :=
  IsInteger text code.toNat

theorem isCode_iff {text : List Char} {code : UInt8} : IsCode text code ↔ text = codeText code := by
  rw [IsCode, isInteger_iff, decimalInt_of_nonneg (Int.natCast_nonneg _), Int.natAbs_natCast, codeText]

theorem recognizes_code : Recognizes readCode IsCode := by
  have hint : Recognizes (readInt .u8) (IsNum .u8) := recognizes_int (by decide)
  refine (hint.map fun n => UInt8.ofNat n.val.toNat).congr fun text code => ?_
  constructor
  · rintro ⟨n, hn, rfl⟩
    have hlo : 0 ≤ n.val := n.property.1
    have hhi : n.val ≤ 255 := n.property.2
    have hval : ((UInt8.ofNat n.val.toNat).toNat : Int) = n.val := by
      rw [UInt8.toNat_ofNat']
      omega
    rwa [IsCode, hval]
  · intro h
    obtain ⟨n, ht, hn⟩ := exists_num code
    exact ⟨n, isInteger_iff.mpr (ht ▸ isCode_iff.mp h), hn.symm⟩

def codeSlot (name : String) (get : Draft → Option UInt8) (enter : Draft → UInt8 → Draft) :
    Slot Draft :=
  ⟨name, false, UInt8, get, enter, readCode, IsCode⟩

def slots : List (Slot Draft) := [
  codeSlot "success" Draft.success fun d n => { d with success := some n },
  codeSlot "error" Draft.error fun d n => { d with error := some n },
  codeSlot "no_data" Draft.noData fun d n => { d with noData := some n }]

theorem slotted : Slotted record slots where
  fields := rfl
  names := by simp [slots, codeSlot]
  recognizes := by simp [slots, codeSlot, recognizes_code]
  blank := by simp [slots, codeSlot, record]
  own := by simp [slots, codeSlot]
  other := by simp [slots, codeSlot]
  ext := by
    rintro ⟨success, error, noData⟩ ⟨success', error', noData'⟩ he
    simpa [slots, codeSlot] using he

/-- The codes that are not given are the standard ones. -/
def Draft.overlay (given : Draft) : ExitCodes where
  success := given.success.getD standard.success
  error := given.error.getD standard.error
  noData := given.noData.getD standard.noData

/-- An object that gives some of the codes. -/
inductive IsPartial (text : List Char) (given : Draft) : Prop
  | object {members : List (String × List Char)} (h : HasMembers text members)
      (hs : Given IsCode "success" members given.success)
      (he : Given IsCode "error" members given.error)
      (hn : Given IsCode "no_data" members given.noData)

theorem IsPartial.recordOf {text : List Char} {given : Draft} (h : IsPartial text given) :
    RecordOf record slots text given.overlay := by
  obtain ⟨h, hs, he, hn⟩ := h
  refine .object (d := given) h.1 ?_ (fun m hm _ => h.2 m hm) rfl
  simp only [slots, List.forall_mem_cons]
  exact ⟨hs, he, hn, nofun⟩

def AlikeCodes : List Char → List Char → Prop :=
  Json.Alike ["success", "error", "no_data"] fun _ value value' => value = value'

theorem IsPartial.of_alike {text text' : List Char} {given : Draft} (ha : AlikeCodes text text')
    (h : IsPartial text given) : IsPartial text' given := by
  obtain ⟨h, hs, he, hn⟩ := h
  obtain ⟨h₁, h', hp, hsame⟩ := ha
  obtain rfl := recognizes_members.unique h h₁
  have hkeep (value value' : List Char) (code : UInt8) (he : value = value')
      (hv : IsCode value code) : IsCode value' code := he ▸ hv
  exact .object h' (hs.of_same (by simp) hp hsame hkeep) (he.of_same (by simp) hp hsame hkeep)
    (hn.of_same (by simp) hp hsame hkeep)

end ExitCodes

namespace Config

/-- What a file gives of a configuration. -/
structure Partial where
  functionName : Option String := none
  exitCodes : Option ExitCodes.Draft := none
  logFilter : Option (Option String) := none

/-- What is not given is standard. -/
def Partial.overlay (given : Partial) : Config where
  functionName := given.functionName.getD standard.functionName
  exitCodes := (given.exitCodes.map ExitCodes.Draft.overlay).getD standard.exitCodes
  logFilter := given.logFilter.getD standard.logFilter

/-- An object that gives some of a configuration, each member once at most. The names of all members
and the strings spell texts, and every code is an integer literal. -/
inductive IsPartial (text : List Char) (given : Partial) : Prop
  | object {members : List (String × List Char)} (h : HasMembers text members)
      (hn : Given IsString "function_name" members given.functionName)
      (hc : Given ExitCodes.IsPartial "exit_codes" members given.exitCodes)
      (hl : Given (Nullable IsString) "log_filter" members given.logFilter)

/-- Files that have the same known members on both levels. -/
def AlikeFiles : List Char → List Char → Prop :=
  Json.Alike ["function_name", "exit_codes", "log_filter"] fun name value value' =>
    value = value' ∨ (name = "exit_codes" ∧ ExitCodes.AlikeCodes value value')

def slots : List (Slot Draft) := [
  ⟨"function_name", false, String, Draft.functionName,
    fun d a => { d with functionName := some a }, readString, IsString⟩,
  ⟨"exit_codes", false, ExitCodes, Draft.exitCodes, fun d a => { d with exitCodes := some a },
    ExitCodes.record.read, RecordOf ExitCodes.record ExitCodes.slots⟩,
  ⟨"log_filter", false, Option String, Draft.logFilter, fun d a => { d with logFilter := some a },
    readOption readString, Nullable IsString⟩]

theorem IsString.head?_ne {text : List Char} {s : String} (h : IsString text s) :
    text.head? ≠ some 'n' := by
  obtain ⟨body, rfl, -⟩ := h
  exact nofun

theorem slotted : Slotted record slots where
  fields := rfl
  names := by simp [slots]
  recognizes := by
    have hstring : Recognizes readString IsString := recognizes_string _
    have hoption := hstring.option fun _ _ => IsString.head?_ne
    simp [slots, hstring, hoption, ExitCodes.slotted.recognizes_read]
  blank := by simp [slots, record]
  own := by simp [slots]
  other := by simp [slots]
  ext := by
    rintro ⟨name, codes, filter⟩ ⟨name', codes', filter'⟩ he
    simpa [slots] using he

theorem IsPartial.recordOf {text : List Char} {given : Partial} (h : IsPartial text given) :
    RecordOf record slots text given.overlay := by
  obtain ⟨h, hn, hc, hl⟩ := h
  have hcodes := hc.map fun _ _ hv => hv.recordOf
  refine .object (d := ⟨given.functionName, given.exitCodes.map ExitCodes.Draft.overlay,
    given.logFilter⟩) h.1 ?_ (fun m hm _ => h.2 m hm) rfl
  simp only [slots, List.forall_mem_cons]
  exact ⟨hn, hcodes, hl, nofun⟩

theorem IsPartial.of_alike {text text' : List Char} {given : Partial} (ha : AlikeFiles text text')
    (h : IsPartial text given) : IsPartial text' given := by
  obtain ⟨h, hn, hc, hl⟩ := h
  obtain ⟨h₁, h', hp, hs⟩ := ha
  obtain rfl := recognizes_members.unique h h₁
  have hsame {name : String} {value value' : List Char} (hne : name ≠ "exit_codes")
      (hv : value = value' ∨ (name = "exit_codes" ∧ ExitCodes.AlikeCodes value value')) :
      value = value' := hv.resolve_right fun hv => hne hv.1
  have hname := hn.of_same (by simp) hp hs fun _ _ _ hv h => hsame (by decide) hv ▸ h
  have hfilter := hl.of_same (by simp) hp hs fun _ _ _ hv h => hsame (by decide) hv ▸ h
  have hcodes := hc.of_same (by simp) hp hs fun _ _ _ hv h =>
    hv.elim (fun he => he ▸ h) fun ha => h.of_alike ha.2
  exact .object h' hname hcodes hfilter

theorem load_of_ok {tree : FileTree} {folder : Path} {s : String} {config : Config}
    (hf : tree.lookup (folder ++ [fileName]) = .ok (.file s.toUTF8))
    (hw : whole record.read s = .ok config) : load tree folder = config.reloaded := by
  simp only [load, hf, ofBytes, fromUTF8?_toUTF8, hw, reloaded]
  cases config.exitCodes.validate <;> rfl

theorem load_of_error {tree : FileTree} {folder : Path} {s : String} {flaw : Flaw}
    (hf : tree.lookup (folder ++ [fileName]) = .ok (.file s.toUTF8))
    (hw : whole record.read s = .error flaw) :
    load tree folder = .error (.serialization flaw) := by
  simp only [load, hf, ofBytes, fromUTF8?_toUTF8, hw]

/-- A file that gives some of a configuration is loaded as the standard one with what is given in its
place, if the exit codes are then valid; else loading fails with what is wrong with them. Files that
differ in the order of their members, in unknown members and in white space are loaded alike. -/
theorem load_partial {tree : FileTree} {folder : Path} {s : String} {text : List Char}
    {given : Partial} (hf : tree.lookup (folder ++ [fileName]) = .ok (.file s.toUTF8))
    (hs : Padded text s.toList) (hg : IsPartial text given) :
    (load tree folder =
      match given.overlay.exitCodes.validate with
      | .ok () => .ok given.overlay
      | .error fault => .error (.config (.exitCodes fault))) ∧
    ∀ (tree' : FileTree) (folder' : Path) (s' : String) (text' : List Char),
      tree'.lookup (folder' ++ [fileName]) = .ok (.file s'.toUTF8) → Padded text' s'.toList →
        AlikeFiles text text' → load tree' folder' = load tree folder := by
  have hread {s : String} {text : List Char} (hs : Padded text s.toList)
      (hg : IsPartial text given) : whole record.read s = .ok given.overlay :=
    slotted.recognizes_read.whole_eq_ok_iff.mpr ⟨text, hs, hg.recordOf⟩
  have hload := load_of_ok hf (hread hs hg)
  refine ⟨hload, fun tree' folder' s' text' hf' hs' ha => ?_⟩
  rw [hload, load_of_ok hf' (hread hs' (hg.of_alike ha))]

/-- An error code is given, in two files; a code that is the one for no data by default is not taken. -/
theorem load_partial_error_code :
    let file (text : List Char) : FileTree := .folder [(fileName, .file (String.ofList text).toUTF8)]
    let long := "\x7b\"note\": [1e999], \"exit_codes\": \x7b\"unit\": null, \"error\": 10\x7d\x7d".toList
    let short := "\x7b\"exit_codes\":\x7b\"error\":10\x7d\x7d".toList
    let colliding := "\x7b\"exit_codes\": \x7b\"error\": 2\x7d\x7d".toList
    load (file long) [] = .ok { standard with exitCodes := ⟨0, 10, 2⟩ } ∧
      load (file (' ' :: short ++ ['\n'])) [] = load (file long) [] ∧
      load (file colliding) [] = .error (.config (.exitCodes (.failuresEqual 2))) := by
  intro file long short colliding
  let codes := "\x7b\"unit\": null, \"error\": 10\x7d".toList
  let fewer := "\x7b\"error\":10\x7d".toList
  let two := "\x7b\"error\": 2\x7d".toList
  have hcodes : HasMembers codes [("unit", "null".toList), ("error", "10".toList)] :=
    recognizes_members.form_of_read rfl rfl
  have hfewer : HasMembers fewer [("error", "10".toList)] :=
    recognizes_members.form_of_read rfl rfl
  have htwo : HasMembers two [("error", "2".toList)] := recognizes_members.form_of_read rfl rfl
  have hlong : HasMembers long [("note", "[1e999]".toList), ("exit_codes", codes)] :=
    recognizes_members.form_of_read rfl rfl
  have hshort : HasMembers short [("exit_codes", fewer)] :=
    recognizes_members.form_of_read rfl rfl
  have hcolliding : HasMembers colliding [("exit_codes", two)] :=
    recognizes_members.form_of_read rfl rfl
  have hten : ExitCodes.IsPartial codes { error := some 10 } :=
    .object hcodes (.absent (by decide)) (.once rfl (ExitCodes.isCode_iff.mpr rfl))
      (.absent (by decide))
  have hcode : ExitCodes.IsPartial two { error := some 2 } :=
    .object htwo (.absent (by decide)) (.once rfl (ExitCodes.isCode_iff.mpr rfl))
      (.absent (by decide))
  have hgiven : IsPartial long { exitCodes := some { error := some 10 } } :=
    .object hlong (.absent (by decide)) (.once rfl hten) (.absent (by decide))
  have hgiven' : IsPartial colliding { exitCodes := some { error := some 2 } } :=
    .object hcolliding (.absent (by decide)) (.once rfl hcode) (.absent (by decide))
  have hsame : ExitCodes.AlikeCodes codes fewer :=
    .mk hcodes hfewer .rfl (.cons ⟨rfl, rfl⟩ .nil)
  have halike : AlikeFiles long short :=
    .mk hlong hshort .rfl (.cons ⟨rfl, .inr ⟨rfl, hsame⟩⟩ .nil)
  have hpadded (text : List Char) : Padded text (String.ofList text).toList :=
    ⟨[], [], space_nil, space_nil, by simp⟩
  have hspace : Padded short (String.ofList (' ' :: short ++ ['\n'])).toList :=
    ⟨[' '], ['\n'], by simp [Space], by simp [Space], by simp⟩
  obtain ⟨hl, hothers⟩ := @load_partial (file long) [] _ _ _ rfl (hpadded long) hgiven
  obtain ⟨hc, -⟩ := @load_partial (file colliding) [] _ _ _ rfl (hpadded colliding) hgiven'
  exact ⟨hl, hothers (file (' ' :: short ++ ['\n'])) [] _ _ rfl hspace halike, hc⟩

/-- The name of an unknown member is read, though its value is not: half of a surrogate pair in it is a
flaw. A code that is written as a negative zero is one too. -/
theorem load_of_half_name :
    let file (text : List Char) : FileTree := .folder [(fileName, .file (String.ofList text).toUTF8)]
    let half := "\x7b\"\\ud800\":1\x7d".toList
    let negative := "\x7b\"exit_codes\":\x7b\"success\":-0\x7d\x7d".toList
    let codes := "\x7b\"success\":-0\x7d".toList
    (IsObject Eq half [("\\ud800".toList, "1".toList)] ∧ StringBody "\\ud800".toList ∧
      WellFormed "1".toList ∧ ∃ flaw, load (file half) [] = .error (.serialization flaw)) ∧
    HasMembers negative [("exit_codes", codes)] ∧ HasMembers codes [("success", "-0".toList)] ∧
      IsNumber "-0".toList ∧ ∃ flaw, load (file negative) [] = .error (.serialization flaw) := by
  intro file half negative codes
  have hload (text : List Char) (hw : (whole record.read (String.ofList text)).toOption = none) :
      ∃ flaw, load (file text) [] = .error (.serialization flaw) := by
    have hf : (file text).lookup ([] ++ [fileName]) = .ok (.file (String.ofList text).toUTF8) := rfl
    cases hc : whole record.read (String.ofList text) with
    | error flaw => exact ⟨flaw, load_of_error hf hc⟩
    | ok config =>
      rw [hc] at hw
      cases hw
  have hhalf : (whole record.read (String.ofList "\x7b\"\\ud800\":1\x7d".toList)).toOption = none := by
    decide +kernel
  have hnegative : (whole record.read
      (String.ofList "\x7b\"exit_codes\":\x7b\"success\":-0\x7d\x7d".toList)).toOption = none := by
    decide +kernel
  have hbody : StringBody "\\ud800".toList := stringBody_iff.mpr (.unit rfl .nil)
  have hone : WellFormed "1".toList := (recognizes_raw.form_of_read rfl rfl).1
  have hzero : Whole ['0'] := whole_decimal 0
  refine ⟨⟨?_, hbody, hone, hload half hhalf⟩, ?_, ?_, ?_, hload negative hnegative⟩
  · have hm := @Member.mk _ Eq "\\ud800".toList [] [] "1".toList _ rfl space_nil space_nil
    exact .pieces space_nil hm (.done space_nil)
  · exact recognizes_members.form_of_read rfl rfl
  · exact recognizes_members.form_of_read rfl rfl
  · exact .mk (.inr rfl) hzero .absent .absent

end Config

end OneShot
