import OneShot.Codec

/-! Sequences of registrations: what was registered last is found, and if nothing was, what was
found before them. -/

namespace OneShot

/-- A lookup that every step overrides or leaves alone finds the last hit of a run. -/
theorem lookup_foldl {σ β γ : Type} {step : σ → β → σ} (look : σ → Option γ) (hit : β → Option γ)
    (h : ∀ s b, look (step s b) = (hit b).or (look s)) (s : σ) (bs : List β) :
    look (bs.foldl step s) = (bs.filterMap hit).getLast?.or (look s) := by
  induction bs generalizing s with
  | nil => rfl
  | cons b bs ih =>
    rw [List.foldl_cons, ih, h]
    cases hb : hit b with
    | none => rw [List.filterMap_cons_none hb, Option.none_or]
    | some c =>
      rw [List.filterMap_cons_some hb, List.getLast?_cons]
      cases (bs.filterMap hit).getLast? <;> rfl

theorem lookup_foldl_filter {σ β : Type} {step : σ → β → σ} (look : σ → Option β) (p : β → Bool)
    (h : ∀ s b, look (step s b) = if p b then some b else look s) (s : σ) (bs : List β) :
    look (bs.foldl step s) = (bs.filter p).getLast?.or (look s) := by
  have hg : ∀ s b, look (step s b) = (Option.guard p b).or (look s) := by
    intro s b
    rw [h, Option.guard]
    split <;> rfl
  rw [lookup_foldl look _ hg, List.filterMap_eq_filter]

namespace ConversionTable

def registerAll (table : ConversionTable) (entries : List ((t : DataType) × Converter t.Val)) :
    ConversionTable :=
  entries.foldl (fun table e => table.register e.1 e.2) table

/-- The last of the registered converters that is for a type. -/
def last? (t : DataType) (entries : List ((t : DataType) × Converter t.Val)) :
    Option (Converter t.Val) :=
  (entries.filterMap fun e => if h : e.1 = t then some (h ▸ e.2) else none).getLast?

theorem converter?_registerAll (table : ConversionTable)
    (entries : List ((t : DataType) × Converter t.Val)) (t : DataType) :
    (table.registerAll entries).converter? t = (last? t entries).or (table.converter? t) := by
  refine lookup_foldl (fun table => table.converter? t) _ (fun table e => ?_) table entries
  by_cases h : e.1 = t <;> simp [register, h]

end ConversionTable

namespace CodecRegistry

def registerAll (r : CodecRegistry) (codecs : List Codec) : CodecRegistry :=
  codecs.foldl register r

def last? (media : MediaType) (codecs : List Codec) : Option Codec :=
  (codecs.filter fun c => c.media.agrees media).getLast?

/-- A codec takes the place of those for its media type, and of no others. -/
theorem find?_register (r : CodecRegistry) (c : Codec) (media : MediaType) :
    (r.register c).find? media = if c.media.agrees media then some c else r.find? media := by
  simp only [find?, register, List.find?_append, List.find?_singleton]
  by_cases hc : c.media.essence = media.essence
  · have hn : (r.codecs.filter fun d => !d.media.agrees c.media).find?
        (fun d => d.media.agrees media) = none := by
      simp [MediaType.agrees, hc]
    have ha : c.media.agrees media = true := beq_iff_eq.mpr hc
    rw [hn, Option.none_or, if_pos ha, if_pos ha]
  · have hf : (r.codecs.filter fun d => !d.media.agrees c.media).find?
        (fun d => d.media.agrees media) = r.codecs.find? fun d => d.media.agrees media := by
      rw [List.find?_filter]
      congr 1
      funext d
      by_cases hd : d.media.essence = media.essence
      · simp [MediaType.agrees, hd, Ne.symm hc]
      · simp [MediaType.agrees, hd]
    have ha : ¬ c.media.agrees media = true := fun h => hc (beq_iff_eq.mp h)
    rw [hf, if_neg ha, if_neg ha, Option.or_none]

theorem find?_registerAll (r : CodecRegistry) (codecs : List Codec) (media : MediaType) :
    (r.registerAll codecs).find? media = (last? media codecs).or (r.find? media) :=
  lookup_foldl_filter (fun r => r.find? media) _ (fun r c => r.find?_register c media) r codecs

end CodecRegistry

namespace FunctionRegistry

def registerAll (r : FunctionRegistry) (registrations : List Registration) : FunctionRegistry :=
  registrations.foldl register r

def last? (name : String) (registrations : List Registration) : Option Registration :=
  (registrations.filter fun r => r.name == name).getLast?

theorem find?_register (r : FunctionRegistry) (registration : Registration) (name : String) :
    (r.register registration).find? name =
      if registration.name == name then some registration else r.find? name :=
  r.functions.find?_insert registration.name registration name

theorem find?_registerAll (r : FunctionRegistry) (registrations : List Registration)
    (name : String) :
    (r.registerAll registrations).find? name = (last? name registrations).or (r.find? name) :=
  lookup_foldl_filter (fun r => r.find? name) _
    (fun r registration => r.find?_register registration name) r registrations

theorem mediaTypeFor_registerAll (r : FunctionRegistry) (registrations : List Registration)
    (name : String) :
    (r.registerAll registrations).mediaTypeFor name =
      ((last? name registrations).map Registration.media).getD (r.mediaTypeFor name) := by
  rw [mediaTypeFor, find?_registerAll]
  cases last? name registrations <;> rfl

end FunctionRegistry

end OneShot
