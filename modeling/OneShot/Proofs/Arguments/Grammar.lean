import OneShot.Arguments

/-! The arguments that are taken, as a grammar: items that set the flag, give the payload, or do both,
and perhaps a pair of dashes at the end. Arguments are written in items in one way only. -/

namespace OneShot.Arguments

/-- What one argument says: it sets the flag, gives the payload, or asks for the next argument as the
payload; the last two may set the flag as well. -/
inductive Token
  | flag
  | attached (debug : Bool) (v : Bytes)
  | wanting (debug : Bool)

/-- Short options in one argument, the one for the payload being the last. -/
def clusterHead (debug : Bool) : Bytes :=
  utf8 (if debug then "-dx" else "-x")

/-- A payload in the argument of its short option, from which one equals sign is dropped. -/
def afterEquals : Bytes → Bytes
  | 0x3D :: v => v
  | v => v

inductive Reads : Bytes → Token → Prop
  | flag : Reads (utf8 "--debug") .flag
  | shortFlag : Reads (utf8 "-d") .flag
  | value (v : Bytes) : Reads (utf8 "--data=" ++ v) (.attached false v)
  | shortValue (debug : Bool) {v : Bytes} (h : v ≠ []) :
      Reads (clusterHead debug ++ v) (.attached debug (afterEquals v))
  | option : Reads (utf8 "--data") (.wanting false)
  | shortOption (debug : Bool) : Reads (clusterHead debug) (.wanting debug)

/-- An item in the arguments it is written in, whether it sets the flag, and its payload. -/
inductive Item : List Bytes → Bool → Option Bytes → Prop
  | flag {argument : Bytes} (h : Reads argument .flag) : Item [argument] true none
  | attached {argument v : Bytes} {debug : Bool} (h : Reads argument (.attached debug v)) :
      Item [argument] debug (some v)
  | followed {argument : Bytes} {debug : Bool} (h : Reads argument (.wanting debug)) (v : Bytes) :
      Item [argument, v] debug (some v)

/-- Arguments that are written in items, how often these set the flag, and their payloads. -/
inductive Grammar : List Bytes → Nat → List Bytes → Prop
  | nil : Grammar [] 0 []
  | dashes : Grammar [utf8 "--"] 0 []
  | item {item rest : List Bytes} {debug : Bool} {value : Option Bytes} {flags : Nat}
      {values : List Bytes} (hi : Item item debug value) (h : Grammar rest flags values) :
      Grammar (item ++ rest) (debug.toNat + flags) (value.toList ++ values)

theorem utf8_dashes : utf8 "--" = [0x2D, 0x2D] := by
  decide

theorem Reads.ne_dashes {argument : Bytes} {t : Token} (h : Reads argument t) :
    argument ≠ [0x2D, 0x2D] := by
  intro ha
  have hl : argument.length = 2 := by rw [ha]; rfl
  cases h with
  | flag => exact absurd ha (by decide)
  | shortFlag => exact absurd ha (by decide)
  | value v =>
    have hv : (utf8 "--data=").length = 7 := by decide
    rw [List.length_append, hv] at hl
    omega
  | @shortValue debug v hv =>
    cases debug with
    | false => exact absurd (List.cons.inj (List.cons.inj ha).2).1 (by decide)
    | true => exact absurd (List.cons.inj (List.cons.inj ha).2).1 (by decide)
  | option => exact absurd ha (by decide)
  | shortOption debug =>
    cases debug with
    | false => exact absurd ha (by decide)
    | true => exact absurd ha (by decide)

theorem Item.ne_nil {item : List Bytes} {debug : Bool} {value : Option Bytes}
    (h : Item item debug value) : item ≠ [] := by
  cases h <;> exact List.cons_ne_nil _ _

/-! Arguments are written in one way only. -/

/-- The token at the head of an argument that is known to be one. -/
def token : Bytes → Token
  | 0x2D :: 0x2D :: 0x64 :: 0x61 :: 0x74 :: 0x61 :: 0x3D :: v => .attached false v
  | 0x2D :: 0x2D :: 0x64 :: 0x61 :: _ => .wanting false
  | [0x2D, 0x78] => .wanting false
  | 0x2D :: 0x78 :: v => .attached false (afterEquals v)
  | [0x2D, 0x64, 0x78] => .wanting true
  | 0x2D :: 0x64 :: 0x78 :: v => .attached true (afterEquals v)
  | _ => .flag

theorem Reads.eq_token {argument : Bytes} {t : Token} (h : Reads argument t) :
    t = token argument := by
  cases h with
  | flag => rfl
  | shortFlag => rfl
  | value v => rfl
  | @shortValue debug v hv =>
    obtain ⟨b, v, rfl⟩ := List.exists_cons_of_ne_nil hv
    cases debug <;> rfl
  | option => rfl
  | shortOption debug => cases debug <;> rfl

theorem Reads.unique {argument : Bytes} {t t' : Token} (h : Reads argument t)
    (h' : Reads argument t') : t = t' :=
  h.eq_token.trans h'.eq_token.symm

theorem Item.unique {item item' rest rest' : List Bytes} {debug debug' : Bool}
    {value value' : Option Bytes} (h : Item item debug value) (h' : Item item' debug' value')
    (ha : item ++ rest = item' ++ rest') : debug' = debug ∧ value' = value ∧ rest' = rest := by
  cases h with
  | flag h =>
    cases h' with
    | flag h' => exact ⟨rfl, rfl, (List.cons.inj ha).2.symm⟩
    | attached h' =>
      obtain ⟨rfl, -⟩ := List.cons.inj ha
      cases h.unique h'
    | followed h' =>
      obtain ⟨rfl, -⟩ := List.cons.inj ha
      cases h.unique h'
  | attached h =>
    cases h' with
    | flag h' =>
      obtain ⟨rfl, -⟩ := List.cons.inj ha
      cases h.unique h'
    | attached h' =>
      obtain ⟨rfl, hr⟩ := List.cons.inj ha
      cases h.unique h'
      exact ⟨rfl, rfl, hr.symm⟩
    | followed h' =>
      obtain ⟨rfl, -⟩ := List.cons.inj ha
      cases h.unique h'
  | followed h =>
    cases h' with
    | flag h' =>
      obtain ⟨rfl, -⟩ := List.cons.inj ha
      cases h.unique h'
    | attached h' =>
      obtain ⟨rfl, -⟩ := List.cons.inj ha
      cases h.unique h'
    | followed h' =>
      obtain ⟨rfl, htail⟩ := List.cons.inj ha
      obtain ⟨rfl, hrest⟩ := List.cons.inj htail
      cases h.unique h'
      exact ⟨rfl, rfl, hrest.symm⟩

theorem Item.append_ne_dashes {item rest : List Bytes} {debug : Bool} {value : Option Bytes}
    (h : Item item debug value) : item ++ rest ≠ [utf8 "--"] := by
  intro ha
  rw [utf8_dashes] at ha
  cases h with
  | flag h => exact h.ne_dashes (List.cons.inj ha).1
  | attached h => exact h.ne_dashes (List.cons.inj ha).1
  | followed h => exact h.ne_dashes (List.cons.inj ha).1

theorem Grammar.unique {argv : List Bytes} {flags flags' : Nat} {values values' : List Bytes}
    (h : Grammar argv flags values) (h' : Grammar argv flags' values') :
    flags' = flags ∧ values' = values := by
  induction h generalizing flags' values' with
  | nil =>
    generalize ha : ([] : List Bytes) = argv at h'
    cases h' with
    | nil => exact ⟨rfl, rfl⟩
    | dashes => cases ha
    | item hi => exact absurd (List.append_eq_nil_iff.mp ha.symm).1 hi.ne_nil
  | dashes =>
    generalize ha : [utf8 "--"] = argv at h'
    cases h' with
    | nil => cases ha
    | dashes => exact ⟨rfl, rfl⟩
    | item hi => exact absurd ha.symm hi.append_ne_dashes
  | @item item rest _ _ _ _ hi h ih =>
    generalize ha : item ++ rest = argv at h'
    cases h' with
    | nil => exact absurd (List.append_eq_nil_iff.mp ha).1 hi.ne_nil
    | dashes => exact absurd ha hi.append_ne_dashes
    | item hi' h' =>
      obtain ⟨rfl, rfl, rfl⟩ := hi.unique hi' ha
      obtain ⟨rfl, rfl⟩ := ih h'
      exact ⟨rfl, rfl⟩

end OneShot.Arguments
