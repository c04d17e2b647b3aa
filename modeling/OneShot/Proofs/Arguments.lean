import OneShot.Proofs.Arguments.Accepted

/-! What the arguments of a caller give who passes one payload, with the flag or without it. Any text is
taken as it is, one that looks like an option too. -/

namespace OneShot.Arguments

/-- Arguments with a payload, and the flag before it, after it, or not at all. -/
inductive Pass (payload : String) : Bool → List ByteArray → Prop
  | plain : Pass payload false ["--data".toUTF8, payload.toUTF8]
  | flagFirst : Pass payload true ["--debug".toUTF8, "--data".toUTF8, payload.toUTF8]
  | flagLast : Pass payload true ["--data".toUTF8, payload.toUTF8, "--debug".toUTF8]

/-- Arguments that give one payload in whichever way there is, and have the flag or not. -/
def Supplies (payload : String) (debug : Bool) (argv : List ByteArray) : Prop :=
  Grammar (written argv) debug.toNat [utf8 payload]

variable {payload : String} {debug : Bool} {argv : List ByteArray}

theorem supplies_iff : Supplies payload debug argv ↔ parse argv = .ok ⟨debug, some payload⟩ := by
  rw [parse_eq_ok_iff]
  rfl

theorem Pass.supplies (h : Pass payload debug argv) : Supplies payload debug argv := by
  have hitem := Item.followed .option (utf8 payload)
  cases h with
  | plain => exact .item hitem .nil
  | flagFirst => exact .item (.flag .flag) (.item hitem .nil)
  | flagLast => exact .item hitem (.item (.flag .flag) .nil)

/-- A payload that is passed is the payload that is read. -/
theorem parse_of_pass (h : Pass payload debug argv) : parse argv = .ok ⟨debug, some payload⟩ :=
  supplies_iff.mp h.supplies

end OneShot.Arguments
