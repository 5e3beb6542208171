/-
The settings of filter reading and writing, and their validation.

Five texts can be set. Readers and writers rely on what validation grants: the keyword can be found
again in a key because it is not empty and has no brackets, a value can be cut at the separator
because it is one character, and null can be recognised because its word is not empty. So these are
fields of the type, and there is no other way to come by settings.

What has to hold of a text is declared field by field (`Name.field`). Going through the options
given is left to a validator, which is not part of this library: it decides what counts as a text,
applies the declared checks to it and collects the flaws. What is relied on is said in `Validator`,
and it is enough for settings to come out of every validator (`Validator.accepts`). Settings cannot
be changed afterwards; an attempt to is a flaw of its own.
-/

set_option autoImplicit false

namespace FilterQuery

/-- How filters are spelled. -/
structure Settings where
  /-- The word that filter keys begin with. -/
  keyword : String := "filter"
  /-- The word for null. -/
  nullWord : String := "null"
  /-- What stands for any text at either end of a substring pattern; may be empty. -/
  wildcard : String := "%"
  /-- What distinguishes the name of a field from a text value. -/
  fieldMarker : String := "#"
  /-- The character between the values of a list. -/
  separator : Char := ','
  keyword_ne_empty : keyword ≠ "" := by decide
  keyword_no_bracket : '[' ∉ keyword.toList ∧ ']' ∉ keyword.toList := by decide
  nullWord_ne_empty : nullWord ≠ "" := by decide
deriving DecidableEq

namespace Settings

/-- The settings when no option is given. -/
def standard : Settings := {}

instance : Inhabited Settings := ⟨standard⟩

/-! ## Options -/

/-- The options by which settings are given. -/
inductive Name where
  | keyword | nullWord | wildcard | fieldMarker | separator
deriving DecidableEq, Repr

namespace Name

/-- All options, in the order in which their flaws are reported. -/
def all : List Name := [.keyword, .nullWord, .wildcard, .fieldMarker, .separator]

/-- The public name of an option. -/
def text : Name → String
  | .keyword => "filter_prefix"
  | .nullWord => "null_sentinel"
  | .wildcard => "wildcard"
  | .fieldMarker => "field_ref_marker"
  | .separator => "array_separator"

end Name

/-- What is wrong with one option. -/
inductive Defect where
  | notText
  /-- Bytes that are no text in UTF-8. -/
  | notUtf8
  | tooShort (least : Nat)
  | tooLong (most : Nat)
  /-- Refused by the further check of its field, for a reason. -/
  | refused (reason : String)
  | unknown
  | frozen
deriving DecidableEq, Repr

/-- A defect and the name of its option. -/
structure Flaw where
  option : String
  defect : Defect
deriving DecidableEq, Repr

namespace Defect

/-- The short name of a defect. -/
def code : Defect → String
  | .notText => "string_type"
  | .notUtf8 => "string_unicode"
  | .tooShort _ => "string_too_short"
  | .tooLong _ => "string_too_long"
  | .refused _ => "value_error"
  | .unknown => "extra_forbidden"
  | .frozen => "frozen_instance"

/-- A number of characters. -/
def characters : Nat → String
  | 1 => "1 character"
  | n => toString n ++ " characters"

/-- The wording of a defect. -/
def message : Defect → String
  | .notText => "Input should be a valid string"
  | .notUtf8 => "Input should be a valid string, unable to parse raw data as a unicode string"
  | .tooShort least => "String should have at least " ++ characters least
  | .tooLong most => "String should have at most " ++ characters most
  | .refused reason => "Value error, " ++ reason
  | .unknown => "Extra inputs are not permitted"
  | .frozen => "Instance is frozen"

end Defect

/-! ## Fields -/

/-- A field as it is declared: the text it has when none is given, how long a text has to be and may
be, and a further check of texts, which gives the reason why one is refused. -/
structure Field where
  name : Name
  default : String
  least : Nat := 0
  most : Option Nat := none
  objection? : String → Option String := fun _ => none

/-- A keyword has no brackets. -/
def bracketObjection? (text : String) : Option String :=
  if '[' ∈ text.toList ∨ ']' ∈ text.toList then some "filter_prefix must not contain brackets"
  else none

/-- The field of an option. -/
def Name.field : Name → Field
  | .keyword =>
    { name := .keyword, default := "filter", least := 1, objection? := bracketObjection? }
  | .nullWord => { name := .nullWord, default := "null", least := 1 }
  | .wildcard => { name := .wildcard, default := "%" }
  | .fieldMarker => { name := .fieldMarker, default := "#" }
  | .separator => { name := .separator, default := ",", least := 1, most := some 1 }

/-- The fields, in the order in which they are declared. -/
def fields : List Field := Name.all.map Name.field

/-- What is wrong with the length of a text. -/
def Field.lengthDefect? (field : Field) (text : String) : Option Defect :=
  if text.length < field.least then some (.tooShort field.least)
  else field.most.bind fun most => if most < text.length then some (.tooLong most) else none

/-- What comes of a value for a field, when it is read so: it has to be a text, then of the right
length, and only then the further check is made. -/
def Field.judge (field : Field) : Except Defect String → Except Defect String
  | .error defect => .error defect
  | .ok text =>
    match field.lengthDefect? text, field.objection? text with
    | some defect, _ => .error defect
    | none, some reason => .error (.refused reason)
    | none, none => .ok text

/-- What is wrong with a field by some options, of which each value is read so. -/
def Field.flaw? {Value : Type} (readText : Value → Except Defect String)
    (options : List (String × Value)) (field : Field) : Option Flaw :=
  match options.lookup field.name.text with
  | none => none
  | some value =>
    match field.judge (readText value) with
    | .ok _ => none
    | .error defect => some ⟨field.name.text, defect⟩

/-- The flaws of the options that are named for no field. -/
def unknownFlaws {Value : Type} (fields : List Field) (options : List (String × Value)) :
    List Flaw :=
  options.filterMap fun (option, _) =>
    if fields.any (·.name.text == option) then none else some ⟨option, .unknown⟩

/-! ## Validation -/

/-- A validator of options whose values are of some type, as far as settings rely on one. -/
structure Validator (Value : Type) where
  /-- What a value is read as where a text is asked for. -/
  readText : Value → Except Defect String
  /-- The texts of some fields by the options given, or all flaws. -/
  validate : List Field → List (String × Value) → Except (List Flaw) (Field → String)
  /-- A text as a value. -/
  ofText : String → Value
  readText_ofText : ∀ text, readText (ofText text) = .ok text
  /-- The flaws are one for each field that has one, in the order of the fields, and then one for
  each unknown option, in the order given. -/
  flaws_of_error : ∀ {fields options flaws}, validate fields options = .error flaws →
    flaws ≠ [] ∧
      flaws = fields.filterMap (Field.flaw? readText options) ++ unknownFlaws fields options
  /-- Texts are given only if there are no flaws. -/
  no_flaws_of_ok : ∀ {fields options texts}, validate fields options = .ok texts →
    fields.filterMap (Field.flaw? readText options) ++ unknownFlaws fields options = []
  /-- The text of a field is what comes of its value, or its default when no value is given. -/
  text_of_ok : ∀ {fields options texts}, validate fields options = .ok texts →
    ∀ field ∈ fields, (options.lookup field.name.text = none → texts field = field.default) ∧
      ∀ value, options.lookup field.name.text = some value →
        field.judge (readText value) = .ok (texts field)

/-- What the text of an option has to be. -/
def Name.Accepts : Name → String → Prop
  | .keyword, t => t ≠ "" ∧ '[' ∉ t.toList ∧ ']' ∉ t.toList
  | .nullWord, t => t ≠ ""
  | .wildcard, _ | .fieldMarker, _ => True
  | .separator, t => t.length = 1

instance (name : Name) : DecidablePred name.Accepts := fun t => by
  cases name <;> unfold Name.Accepts <;> infer_instance

theorem Name.mem_all (name : Name) : name ∈ all := by
  cases name <;> decide

theorem Name.name_field (name : Name) : name.field.name = name := by
  cases name <;> rfl

theorem Name.field_mem_fields (name : Name) : name.field ∈ fields :=
  List.mem_map.2 ⟨name, name.mem_all, rfl⟩

theorem Name.accepts_default (name : Name) : name.Accepts name.field.default := by
  cases name <;> decide

/-- **An option has to be what its field lets pass.** -/
theorem Name.accepts_iff {name : Name} {text : String} :
    name.Accepts text ↔
      name.field.lengthDefect? text = none ∧ name.field.objection? text = none := by
  have hempty : text ≠ "" ↔ ¬ text.length < 1 := by
    rw [Nat.not_lt, Ne, ← String.length_eq_zero_iff]
    omega
  cases name with
  | keyword => simp [Accepts, field, Field.lengthDefect?, bracketObjection?, hempty]
  | nullWord => simp [Accepts, field, Field.lengthDefect?, hempty]
  | wildcard | fieldMarker => simp [Accepts, field, Field.lengthDefect?]
  | separator =>
      simp only [Accepts, field, Field.lengthDefect?, Option.bind_some, and_true]
      by_cases hshort : text.length < 1
      · simp [hshort]
        omega
      · by_cases hlong : 1 < text.length
        · simp [hshort, hlong]
          omega
        · simp [hshort, hlong]
          omega

theorem Field.judge_eq_ok_iff {field : Field} {read : Except Defect String} {text : String} :
    field.judge read = .ok text ↔
      read = .ok text ∧ field.lengthDefect? text = none ∧ field.objection? text = none := by
  cases read with
  | error defect => simp [judge]
  | ok t =>
      constructor
      · intro h
        rw [judge] at h
        split at h
        · cases h
        · cases h
        · next hlength hobjection =>
            obtain rfl : t = text := Except.ok.inj h
            exact ⟨rfl, hlength, hobjection⟩
      · rintro ⟨h, hlength, hobjection⟩
        obtain rfl : t = text := Except.ok.inj h
        rw [judge, hlength, hobjection]

namespace Validator

variable {Value : Type} (validator : Validator Value)

/-- **The texts that a validator gives make settings.** -/
theorem accepts {options : List (String × Value)} {texts : Field → String}
    (h : validator.validate fields options = .ok texts) (name : Name) :
    name.Accepts (texts name.field) := by
  obtain ⟨habsent, hgiven⟩ := validator.text_of_ok h name.field name.field_mem_fields
  cases hlookup : options.lookup name.field.name.text with
  | none =>
      rw [habsent hlookup]
      exact name.accepts_default
  | some value => exact Name.accepts_iff.2 (Field.judge_eq_ok_iff.1 (hgiven value hlookup)).2

end Validator

/-- The settings with the given texts. -/
def ofTexts (texts : Name → String) (h : ∀ name : Name, name.Accepts (texts name)) : Settings where
  keyword := texts Name.keyword
  nullWord := texts Name.nullWord
  wildcard := texts Name.wildcard
  fieldMarker := texts Name.fieldMarker
  separator := (texts Name.separator).toList.head (by
    have hone : (texts Name.separator).length = 1 := h .separator
    rw [← String.length_toList] at hone
    exact List.ne_nil_of_length_pos (Nat.lt_of_lt_of_eq Nat.zero_lt_one hone.symm))
  keyword_ne_empty := (h .keyword).1
  keyword_no_bracket := (h .keyword).2
  nullWord_ne_empty := h .nullWord

/-- The settings with the options that are given and the defaults of the others, or every flaw of
the options. -/
def ofOptions {Value : Type} (validator : Validator Value) (options : List (String × Value)) :
    Except (List Flaw) Settings :=
  match h : validator.validate fields options with
  | .error flaws => .error flaws
  | .ok texts => .ok (ofTexts (fun name => texts name.field) (validator.accepts h))

/-- The flaw reported when an option of existing settings is assigned. -/
def assign (option : String) : Flaw := ⟨option, .frozen⟩

end Settings

end FilterQuery
