import OneShot.Decoder
import OneShot.Diagnostic
import OneShot.Proofs.Json.Written
import OneShot.Proofs.Numeral

/-! The lines of a terse report. The texts in a message that come from elsewhere stand in it as they are, so
that each of their line feeds begins another line of the report. -/

namespace OneShot

def lineFeeds (s : String) : Nat :=
  s.toList.count '\n'

theorem lineFeeds_eq_zero_iff {s : String} : lineFeeds s = 0 ↔ '\n' ∉ s.toList :=
  List.count_eq_zero

theorem lineFeeds_append (s t : String) : lineFeeds (s ++ t) = lineFeeds s + lineFeeds t := by
  rw [lineFeeds, String.toList_append, List.count_append, lineFeeds, lineFeeds]

/-- The line feeds of texts, one text after another. -/
def totalFeeds : List String → Nat
  | [] => 0
  | text :: texts => lineFeeds text + totalFeeds texts

theorem totalFeeds_append (texts texts' : List String) :
    totalFeeds (texts ++ texts') = totalFeeds texts + totalFeeds texts' := by
  induction texts with
  | nil => exact (Nat.zero_add _).symm
  | cons text texts ih => rw [List.cons_append, totalFeeds, totalFeeds, ih, Nat.add_assoc]

theorem totalFeeds_eq_zero_iff {texts : List String} :
    totalFeeds texts = 0 ↔ ∀ text ∈ texts, '\n' ∉ text.toList := by
  induction texts with
  | nil => exact iff_of_true rfl nofun
  | cons text texts ih =>
    rw [totalFeeds, Nat.add_eq_zero_iff, ih, lineFeeds_eq_zero_iff, List.forall_mem_cons]

/-- A text that is one line with its end. -/
def OneLine (s : String) : Prop :=
  ∃ line : String, s = line ++ "\n" ∧ '\n' ∉ line.toList

theorem oneLine_append_iff {line : String} : OneLine (line ++ "\n") ↔ lineFeeds line = 0 := by
  rw [lineFeeds_eq_zero_iff]
  constructor
  · rintro ⟨other, he, h⟩
    have hl := congrArg String.toList he
    rw [String.toList_append, String.toList_append] at hl
    rwa [List.append_cancel_right hl]
  · exact fun h => ⟨line, rfl, h⟩

/-- Texts as they are, in their order, with words around them that have no line feed. -/
inductive Woven : List String → String → Prop
  | words {p : List Char} (h : '\n' ∉ p) : Woven [] (String.ofList p)
  | text (t : String) : Woven [t] t
  | append {texts texts' : List String} {s s' : String} (h : Woven texts s) (h' : Woven texts' s') :
      Woven (texts ++ texts') (s ++ s')

namespace Woven

variable {texts : List String} {s : String} {p q : List Char}

theorem before (hp : '\n' ∉ p) (h : Woven texts s) : Woven texts (String.ofList p ++ s) :=
  (words hp).append h

theorem after (h : Woven texts s) (hp : '\n' ∉ p) : Woven texts (s ++ String.ofList p) := by
  have ha := h.append (words hp)
  rwa [List.append_nil] at ha

theorem between (hp : '\n' ∉ p) (h : Woven texts s) (hq : '\n' ∉ q) :
    Woven texts (String.ofList p ++ s ++ String.ofList q) :=
  (h.before hp).after hq

theorem lineFeeds_eq (h : Woven texts s) : lineFeeds s = totalFeeds texts := by
  induction h with
  | words h =>
    rw [lineFeeds_eq_zero_iff.mpr (by rwa [String.toList_ofList])]
    rfl
  | text t => rfl
  | append _ _ ih ih' => rw [lineFeeds_append, totalFeeds_append, ih, ih']

theorem shown (h : Woven texts s) : ∀ t ∈ texts, ∃ l r, s = l ++ t ++ r := by
  induction h with
  | words => exact nofun
  | text t =>
    intro u hu
    obtain rfl := List.mem_singleton.mp hu
    exact ⟨"", "", by rw [String.empty_append, String.append_empty]⟩
  | append _ _ ih ih' =>
    intro u hu
    rcases List.mem_append.mp hu with hu | hu
    · obtain ⟨l, r, rfl⟩ := ih u hu
      exact ⟨l, r ++ _, (String.append_assoc ..)⟩
    · obtain ⟨l, r, rfl⟩ := ih' u hu
      exact ⟨_ ++ l, r, by rw [String.append_assoc, String.append_assoc, String.append_assoc]⟩

end Woven

/-! The words of the program. -/

theorem newline_not_mem_hex (n : Nat) : '\n' ∉ hex n := by
  rw [hex]
  induction n using Nat.strongRecOn with
  | ind n ih =>
    have hd : ∀ m < 16, '\n' ∉ [m.digitChar] := by decide
    by_cases hn : n < 16
    · rw [Nat.toDigits_of_lt_base hn]
      exact hd n hn
    · rw [Nat.toDigits_of_base_le (by omega) (by omega), List.mem_append, not_or]
      exact ⟨ih (n / 16) (by omega), hd _ (Nat.mod_lt _ (by omega))⟩

theorem newline_not_mem_quoteChar (c : Char) : '\n' ∉ quoteChar c := by
  by_cases hn : c = '\n'
  · subst hn
    decide
  · have hc : '\n' ∉ [c] := fun h => hn (List.mem_singleton.mp h).symm
    have hx : '\n' ∉ ['\\', 'u', '\x7b'] ++ hex c.toNat ++ ['\x7d'] := by
      simp [newline_not_mem_hex]
    rw [quoteChar, if_neg hn]
    repeat' split
    all_goals first | exact hc | exact hx | decide

theorem woven_quoted (s : String) : Woven [] (quoted s) := by
  refine .words ?_
  rw [List.mem_append, List.mem_cons, List.mem_flatMap]
  rintro ((h | ⟨c, -, h⟩) | h)
  · cases h
  · exact newline_not_mem_quoteChar c h
  · exact absurd h (by decide)

theorem woven_systemText (code : Int) : Woven [] (systemText code) := by
  have htable : ∀ e ∈ systemTexts, Woven [] e.2 := by
    -- The literals are taken as lists of characters. To decode them all would be long.
    unfold systemTexts
    repeat refine List.forall_mem_cons.mpr ⟨.words (by decide), ?_⟩
    exact List.forall_mem_nil _
  rw [systemText]
  split
  · rename_i h
    exact htable _ (List.mem_of_find?_eq_some h)
  · exact .before (by decide) (.words (Json.newline_not_mem_decimalInt code))

theorem IoKind.woven_description (kind : IoKind) : Woven [] kind.description := by
  cases kind <;> exact .words (by decide)

theorem ExitCodes.Fault.woven_message (fault : ExitCodes.Fault) : Woven [] fault.message := by
  cases fault with
  | successNotZero code | failuresEqual code => exact .before (by decide) (.words (newline_not_mem_decimal _))
  | failureZero => exact .words (by decide)

theorem PatternFault.woven_message (fault : PatternFault) : Woven [] fault.message := by
  cases fault with
  | malformed => exact .words (by decide)
  | wordBoundary => exact .after (.after (.words (by decide)) (by decide)) (by decide)

theorem LogFilterFault.woven_message (fault : LogFilterFault) : Woven [] fault.message := by
  cases fault with
  | badLevel => exact .after (.words (by decide)) (by decide)
  | badDirective => exact .words (by decide)
  | badField fault => exact .before (by decide) fault.woven_message

theorem Json.Found.woven_describe (found : Json.Found) : Woven [] found.describe := by
  cases found with
  | bool b => cases b <;> exact .words (by decide)
  | integer n => exact .between (by decide) (.words (Json.newline_not_mem_decimalInt n)) (by decide)
  | real x =>
    exact .between (by decide) (.words (Encoded.newline_not_mem_json _ _ _)) (by decide)
  | string s => exact .before (by decide) (woven_quoted s)
  | null | sequence | map => exact .words (by decide)

/-! The texts in a message that come from elsewhere: from callers, from functions and from hosts. -/

def Json.Fault.texts : Json.Fault → List String
  | wrongKind _ expected | wrongValue _ expected | wrongLength _ expected => [expected]
  | duplicateField name | missingField name => [name]
  | refused message => [message]
  | _ => []

def MediaType.Fault.texts : MediaType.Fault → List String
  | badEssence text => [text]
  | badParameter parameter => [parameter]

def ConfigFault.texts : ConfigFault → List String
  | mediaType fault => fault.texts
  | exitCodes _ => []
  | unknownFunction name => [name]
  | logFilter filter _ => [filter]
  | unreadable data => [data]
  | unwritable json => [json]
  | other text => [text]

def ContainerFault.texts : ContainerFault → List String
  | other text => [text]
  | _ => []

def IoFault.texts : IoFault → List String
  | raised _ text => [text]
  | _ => []

/-- What is wrong with the arguments is told on a page, which is a text of its own. -/
def Fault.texts : Fault → List String
  | noData => []
  | unconvertible data typeName _ => [data, typeName]
  | function fault => [fault.text]
  | panicked text => [text]
  | arguments fault => [fault.page]
  | codecNotFound media => [media.display]
  | beanNotFound typeName => [typeName]
  | container fault => fault.texts
  | config fault => fault.texts
  | io fault => fault.texts
  | serialization flaw => flaw.fault.texts

theorem Json.Fault.woven_message (fault : Json.Fault) : Woven fault.texts fault.message := by
  cases fault with
  | wrongKind found expected | wrongValue found expected =>
    exact .append (.between (by decide) found.woven_describe (by decide)) (.text expected)
  | wrongLength length expected =>
    exact .append (.between (by decide) (.words (newline_not_mem_decimal length)) (by decide))
      (.text expected)
  | duplicateField name | missingField name =>
    exact .between (by decide) (.text name) (by decide)
  | refused message => exact .text message
  | _ => exact .words (by decide)

theorem Json.Flaw.woven_report (flaw : Json.Flaw) : Woven flaw.fault.texts flaw.report := by
  have hm : Woven flaw.fault.texts flaw.message := flaw.fault.woven_message
  rw [report]
  split
  · exact hm
  · exact .after (.after (.after (.after hm (by decide)) (newline_not_mem_decimal _)) (by decide))
      (newline_not_mem_decimal _)

theorem MediaType.Fault.woven_message (fault : MediaType.Fault) :
    Woven fault.texts fault.message := by
  cases fault <;> exact .before (by decide) (.text _)

theorem ConfigFault.woven_text (fault : ConfigFault) : Woven fault.texts fault.text := by
  cases fault with
  | mediaType fault => exact fault.woven_message
  | exitCodes fault => exact fault.woven_message
  | unknownFunction name => exact .between (by decide) (.text name) (by decide)
  | logFilter filter fault =>
    exact .append (.between (by decide) (.text filter) (by decide)) fault.woven_message
  | unreadable data | unwritable json => exact .before (by decide) (.text _)
  | other text => exact .text text

theorem ContainerFault.woven_text (fault : ContainerFault) : Woven fault.texts fault.text := by
  cases fault with
  | cannotStart phase => cases phase <;> exact .before (by decide) (.words (by decide))
  | alreadyClosed | cannotInject => exact .words (by decide)
  | other text => exact .text text

theorem IoFault.woven_message (fault : IoFault) : Woven fault.texts fault.message := by
  cases fault with
  | system code =>
    exact .after (.after (.after (woven_systemText code) (by decide))
      (Json.newline_not_mem_decimalInt code)) (by decide)
  | raised kind text => exact .text text
  | bare kind => exact kind.woven_description
  | notUtf8 | nothingWritten | zeroInName => exact .words (by decide)

/-- A page has more lines than one. -/
theorem ArgumentFault.lineFeeds_page_ne_zero (fault : ArgumentFault) : lineFeeds fault.page ≠ 0 := by
  have hn : lineFeeds "\n" = 1 := rfl
  unfold page
  rw [lineFeeds_append, hn]
  exact Nat.succ_ne_zero _

namespace Fault

theorem woven_fullMessage (fault : Fault) : Woven fault.texts fault.fullMessage := by
  cases fault with
  | noData => exact .words (by decide)
  | unconvertible data typeName reason =>
    exact .append (.between (by decide) (.text data) (by decide)) (.text typeName)
  | function | panicked | arguments | codecNotFound | beanNotFound =>
    exact .before (by decide) (.text _)
  | container fault => exact .before (by decide) fault.woven_text
  | config fault => exact .before (by decide) fault.woven_text
  | io fault => exact .before (by decide) fault.woven_message
  | serialization flaw => exact .before (by decide) flaw.woven_report

theorem woven_errorHead (palette : Palette) : Woven [] palette.errorHead := by
  cases palette with
  | plain => exact .words (by decide)
  | colored =>
    exact .after (.after (.after (.after (.words (by decide)) (by decide)) (by decide)) (by decide))
      (by decide)

theorem report_terse (fault : Fault) (palette : Palette) :
    ∃ line, fault.report false palette = line ++ "\n" ∧ Woven fault.texts line := by
  refine ⟨palette.errorHead ++ " " ++ fault.fullMessage, String.append_empty, ?_⟩
  exact ((woven_errorHead palette).after (by decide)).append fault.woven_fullMessage

theorem oneLine_report_iff (fault : Fault) (palette : Palette) :
    OneLine (fault.report false palette) ↔ ∀ text ∈ fault.texts, '\n' ∉ text.toList := by
  obtain ⟨line, he, hw⟩ := fault.report_terse palette
  rw [he, oneLine_append_iff, hw.lineFeeds_eq, totalFeeds_eq_zero_iff]

/-- The report of a payload that is no value of its type is on one line if the payload is. -/
theorem oneLine_report_of_undecodable {d : Decoder} {t : DataType} {data : String}
    {media : MediaType} {fault : Fault} (h : d.decodeWith t data media = .error fault)
    (ht : '\n' ∉ t.name.toList) (palette : Palette) :
    OneLine (fault.report false palette) ↔ '\n' ∉ data.toList := by
  obtain ⟨reason, rfl⟩ := Decoder.decodeWith_eq_error h
  rw [oneLine_report_iff, texts, List.forall_mem_cons, List.forall_mem_singleton, and_iff_left ht]

/-- The lines of a terse report. -/
structure Terse (fault : Fault) (palette : Palette) : Prop where
  ended : ∃ line, fault.report false palette = line ++ "\n" ∧ Woven fault.texts line
  shown : ∀ text ∈ fault.texts, ∃ l r, fault.report false palette = l ++ text ++ r
  /-- One for the end of the report, and all those that came with the texts. -/
  feeds : lineFeeds (fault.report false palette) = totalFeeds fault.texts + 1
  oneLine_iff : OneLine (fault.report false palette) ↔ ∀ text ∈ fault.texts, '\n' ∉ text.toList
  paged : ∀ page, fault = .arguments page → ¬ OneLine (fault.report false palette)

/-- A terse report is on one line if the texts in its message are. -/
theorem terse_lines (fault : Fault) (palette : Palette) : fault.Terse palette := by
  obtain ⟨line, he, hw⟩ := fault.report_terse palette
  have hone := fault.oneLine_report_iff palette
  refine ⟨⟨line, he, hw⟩, ?shown, ?feeds, hone, ?paged⟩
  case shown =>
    intro text ht
    obtain ⟨l, r, hl⟩ := hw.shown text ht
    exact ⟨l, r ++ "\n", by rw [he, hl, String.append_assoc]⟩
  case feeds =>
    rw [he, lineFeeds_append, hw.lineFeeds_eq]
    rfl
  case paged =>
    rintro page rfl h
    exact page.lineFeeds_page_ne_zero (lineFeeds_eq_zero_iff.mpr (hone.mp h _ List.mem_cons_self))

/-- A message over two lines, and a payload that looks like another report. -/
theorem lines_of_message_and_payload :
    let message := Fault.function (.plain "a\nb")
    message.report false .plain = "Error: Function failed: a\nb\n" ∧
      ¬ OneLine (message.report false .plain) ∧
      ∃ fault, Decoder.standard.decode (.int .i64) "4\nError: none" = .error fault ∧
        fault.report false .plain =
          "Error: Passed data [4\nError: none] cannot be converted to type: i64\n" ∧
        ¬ OneLine (fault.report false .plain) := by
  intro message
  have hn : ¬ OneLine (message.report false .plain) := fun h =>
    absurd ((message.oneLine_report_iff .plain).mp h _ List.mem_cons_self) (by decide)
  have hd : Decoder.standard.decode (.int .i64) "4\nError: none" =
      .error (.unconvertible "4\nError: none" "i64" (some (.invalid "i64"))) := rfl
  refine ⟨by decide, hn, _, hd, by decide, fun h => ?_⟩
  exact (oneLine_report_of_undecodable hd (by decide) .plain).mp h (by decide)

end Fault

end OneShot
