/-
Options given by a program.

A value is a text, some bytes or something else. Bytes in UTF-8 are as good as the text that they
are. Every option is looked at, whatever is wrong with the others.
-/
import FilterQuery.Settings
import FilterQuery.Text.Utf8

set_option autoImplicit false

namespace FilterQuery.Settings

/-- The value of an option. -/
inductive Given where
  | text (text : String)
  | bytes (bytes : List UInt8)
  /-- Neither a text nor bytes. -/
  | other
deriving DecidableEq, Repr

namespace Given

/-- What a value is read as where a text is asked for. -/
def readText : Given → Except Defect String
  | .text t => .ok t
  | .bytes given =>
    match Text.Utf8.decode? given with
    | some s => .ok (String.ofList s)
    | none => .error .notUtf8
  | .other => .error .notText

variable (fields : List Field) (options : List (String × Given))

/-- All flaws of some options, those of the fields first. -/
def flaws : List Flaw :=
  fields.filterMap (Field.flaw? readText options) ++ unknownFlaws fields options

/-- The text of a field, or its default if there is no text for it. -/
def textOf (field : Field) : String :=
  match options.lookup field.name.text with
  | none => field.default
  | some value =>
    match field.judge (readText value) with
    | .ok t => t
    | .error _ => field.default

/-- The texts of some fields, or all flaws. -/
def validate : Except (List Flaw) (Field → String) :=
  match flaws fields options with
  | [] => .ok (textOf options)
  | flaw :: rest => .error (flaw :: rest)

theorem eq_flaws_of_validate {found : List Flaw} (h : validate fields options = .error found) :
    found ≠ [] ∧ found = flaws fields options := by
  rw [validate] at h
  split at h
  · cases h
  · next flaw rest hflaws =>
    rw [← Except.error.inj h, hflaws]
    exact ⟨List.cons_ne_nil _ _, rfl⟩

theorem of_validate_eq_ok {texts : Field → String} (h : validate fields options = .ok texts) :
    flaws fields options = [] ∧ texts = textOf options := by
  rw [validate] at h
  split at h
  · next hflaws => exact ⟨hflaws, (Except.ok.inj h).symm⟩
  · cases h

theorem judge_of_no_flaws (h : flaws fields options = []) {field : Field} (hfield : field ∈ fields)
    {value : Given} (hlookup : options.lookup field.name.text = some value) :
    field.judge (readText value) = .ok (textOf options field) := by
  have hflaw : field.flaw? readText options = none :=
    List.filterMap_eq_nil_iff.1 (List.append_eq_nil_iff.1 h).1 field hfield
  simp only [Field.flaw?, hlookup] at hflaw
  split at hflaw
  · next t hjudge => simp only [textOf, hlookup, hjudge]
  · cases hflaw

/-- The validator of such options. -/
def validator : Validator Given where
  readText := readText
  validate := validate
  ofText := .text
  readText_ofText := fun _ => rfl
  flaws_of_error := eq_flaws_of_validate _ _
  no_flaws_of_ok := fun h => (of_validate_eq_ok _ _ h).1
  text_of_ok := fun h field hfield => by
    obtain ⟨hflaws, rfl⟩ := of_validate_eq_ok _ _ h
    exact ⟨fun hlookup => by rw [textOf, hlookup],
      fun _ hlookup => judge_of_no_flaws _ _ hflaws hfield hlookup⟩

end Given

end FilterQuery.Settings
