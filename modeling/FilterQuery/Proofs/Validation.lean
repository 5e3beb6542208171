/-
What validation grants and what it reports.

A validator goes through the fields as they are declared: a value has to be a text, then of the right
length, and only then is the further check made. Here the declarations are turned into lists of
checks (`Name.checks`), of which the first that fails makes the flaw of a field, and everything a
validator says of the fields becomes one filtering of the list of names (`knownFlaws`), whatever else
was given. From that the report is read off: what fits is not reported, what does not fit is not left
out, and the order is that of the names and then that of the options.

What counts as a text is up to the validator, so all this is said of any of them. A program may well
be allowed to give bytes for a text.

The names of the options have to be distinct. Of two entries with one name the second would not be
looked at.
-/
import FilterQuery.Proofs.Params
import FilterQuery.Settings.Given
import Mathlib.Data.List.Basic

set_option autoImplicit false

namespace FilterQuery.Settings

/-! ## Checks -/

/-- The checks of validation, in the order in which they are made. -/
inductive Check where
  | isText | notEmpty | oneCharacter | noBrackets
deriving DecidableEq, Repr

/-- What a check finds wrong with a value that is read so. All but the first look at texts only. -/
def Check.defect? : Check → Except Defect String → Option Defect
  | .isText, .error defect => some defect
  | .isText, .ok _ => none
  | _, .error _ => none
  | .notEmpty, .ok t => if t = "" then some (.tooShort 1) else none
  | .oneCharacter, .ok t => if 1 < t.length then some (.tooLong 1) else none
  | .noBrackets, .ok t => (bracketObjection? t).map .refused

namespace Name

/-- The checks that are made on an option. -/
def checks : Name → List Check
  | .keyword => [.isText, .notEmpty, .noBrackets]
  | .nullWord => [.isText, .notEmpty]
  | .wildcard | .fieldMarker => [.isText]
  | .separator => [.isText, .notEmpty, .oneCharacter]

/-- What the first check that fails finds wrong. -/
def firstDefect? (name : Name) (read : Except Defect String) : Option Defect :=
  name.checks.findSome? (·.defect? read)

/-- A value that is read as a text which the option accepts. -/
def Takes (name : Name) (read : Except Defect String) : Prop :=
  ∃ t, read = .ok t ∧ name.Accepts t

instance (name : Name) : DecidablePred name.Takes
  | .ok t => decidable_of_iff (name.Accepts t)
      ⟨fun h => ⟨t, rfl, h⟩, fun ⟨_, ht, h⟩ => Except.ok.inj ht ▸ h⟩
  | .error _ => .isFalse nofun

theorem text_injective : Function.Injective text := by
  intro a b
  cases a <;> cases b <;> simp [text]

/-- **The checks are those of the declared field**: of a text that is too short it is not asked
whether it is too long, and so on. -/
theorem judge_eq (name : Name) (read : Except Defect String) :
    name.field.judge read = match name.firstDefect? read with
      | some defect => .error defect
      | none => read := by
  cases read with
  | error defect => cases name <;> rfl
  | ok t =>
      have hshort : t.length < 1 ↔ t = "" := by
        rw [Nat.lt_one_iff, String.length_eq_zero_iff]
      rw [Field.judge, Field.lengthDefect?, firstDefect?]
      cases name with
      | wildcard | fieldMarker => simp [field, checks, Check.defect?]
      | nullWord => by_cases hempty : t = "" <;> simp [field, checks, Check.defect?, hshort, hempty]
      | separator =>
          by_cases hempty : t = "" <;> by_cases hlong : 1 < t.length <;>
            simp [field, checks, Check.defect?, hshort, hempty, hlong]
      | keyword =>
          by_cases hempty : t = "" <;> cases hreason : bracketObjection? t <;>
            simp [field, checks, Check.defect?, hshort, hempty, hreason]

/-- **The checks let through what the option accepts**, and nothing else. -/
theorem firstDefect?_eq_none_iff {name : Name} {read : Except Defect String} :
    name.firstDefect? read = none ↔ name.Takes read := by
  have hjudge := name.judge_eq read
  constructor
  · intro hnone
    cases read with
    | error defect =>
        -- Every option has to be a text before anything else is asked of it.
        cases name <;> cases hnone
    | ok t =>
        rw [hnone] at hjudge
        exact ⟨t, rfl, accepts_iff.2 (Field.judge_eq_ok_iff.1 hjudge).2⟩
  · rintro ⟨t, rfl, haccepts⟩
    rw [Field.judge_eq_ok_iff.2 ⟨rfl, accepts_iff.1 haccepts⟩] at hjudge
    split at hjudge
    · cases hjudge
    · assumption

end Name

/-! ## Options that fit -/

section

variable {Value : Type} (validator : Validator Value)

/-- An option that is known, and whose value is read as a text that it accepts. -/
def IsFit (entry : String × Value) : Prop :=
  ∃ name ∈ Name.all, entry.1 = name.text ∧ name.Takes (validator.readText entry.2)

instance : DecidablePred (IsFit validator) := fun entry =>
  inferInstanceAs <| Decidable <|
    ∃ name ∈ Name.all, entry.1 = name.text ∧ name.Takes (validator.readText entry.2)

/-- The text that an option comes to. -/
def value (settings : Settings) : Name → String
  | .keyword => settings.keyword
  | .nullWord => settings.nullWord
  | .wildcard => settings.wildcard
  | .fieldMarker => settings.fieldMarker
  | .separator => settings.separator.toString

variable {validator}

theorem isFit_iff {name : Name} {given : Value} :
    IsFit validator (name.text, given) ↔ name.Takes (validator.readText given) := by
  constructor
  · rintro ⟨other, -, hname, htakes⟩
    rwa [Name.text_injective hname]
  · exact fun htakes => ⟨name, name.mem_all, rfl, htakes⟩

theorem value_ofTexts {texts : Name → String} (h : ∀ name : Name, name.Accepts (texts name))
    (name : Name) : (ofTexts texts h).value name = texts name := by
  cases name with
  | separator =>
      -- One character is the text that has only this one.
      have hone : (texts .separator).toList.length = 1 := h .separator
      obtain ⟨c, hc⟩ := List.length_eq_one_iff.1 hone
      rw [← String.toList_inj, value, Char.toString, String.toList_singleton, hc]
      simp [ofTexts, hc]
  | _ => rfl

/-! ## What a validator finds -/

/-- The flaws of the options that are known. -/
def knownFlaws (validator : Validator Value) (options : List (String × Value)) : List Flaw :=
  Name.all.filterMap fun name =>
    ((options.lookup name.text).bind fun given => name.firstDefect? (validator.readText given)).map
      fun defect => ⟨name.text, defect⟩

theorem filterMap_flaw? (options : List (String × Value)) :
    fields.filterMap (Field.flaw? validator.readText options) = knownFlaws validator options := by
  rw [fields, List.filterMap_map, knownFlaws]
  refine List.filterMap_congr fun name _ => ?_
  rw [Function.comp_apply, Field.flaw?, Name.name_field]
  cases options.lookup name.text with
  | none => rfl
  | some given =>
      have hjudge := name.judge_eq (validator.readText given)
      dsimp only [Option.bind_some]
      cases hdefect : name.firstDefect? (validator.readText given) with
      | some defect =>
          rw [hdefect] at hjudge
          rw [hjudge]
          rfl
      | none =>
          obtain ⟨t, hread, -⟩ := Name.firstDefect?_eq_none_iff.1 hdefect
          rw [hdefect, hread] at hjudge
          rw [hread, hjudge]
          rfl

/-- All flaws of some options, those of the known ones first. -/
def allFlaws (validator : Validator Value) (options : List (String × Value)) : List Flaw :=
  knownFlaws validator options ++ unknownFlaws fields options

/-- Settings are made when there is nothing to report, and are then what the options say. -/
inductive Validates (validator : Validator Value) (options : List (String × Value)) :
    Except (List Flaw) Settings → Prop
  | taken {settings : Settings} (hnone : allFlaws validator options = [])
      (hvalue : ∀ name : Name,
        (∃ given, options.lookup name.text = some given ∧
          validator.readText given = .ok (settings.value name)) ∨
        options.lookup name.text = none ∧ settings.value name = standard.value name) :
      Validates validator options (.ok settings)
  | refused (hsome : allFlaws validator options ≠ []) :
      Validates validator options (.error (allFlaws validator options))

theorem validates_ofOptions (options : List (String × Value)) :
    Validates validator options (ofOptions validator options) := by
  rw [ofOptions]
  split
  · next flaws herror =>
    obtain ⟨hsome, hflaws⟩ := validator.flaws_of_error herror
    rw [filterMap_flaw?] at hflaws
    rw [hflaws] at hsome ⊢
    exact .refused hsome
  · next texts hok =>
    have hnone := validator.no_flaws_of_ok hok
    rw [filterMap_flaw?] at hnone
    refine .taken hnone fun name => ?_
    obtain ⟨habsent, hgiven⟩ := validator.text_of_ok hok name.field name.field_mem_fields
    rw [Name.name_field] at habsent hgiven
    rw [value_ofTexts]
    cases hlookup : options.lookup name.text with
    | none =>
        refine .inr ⟨rfl, ?_⟩
        rw [habsent hlookup]
        cases name <;> rfl
    | some given => exact .inl ⟨given, rfl, (Field.judge_eq_ok_iff.1 (hgiven given hlookup)).1⟩

/-! ## The report -/

theorem mem_unknownFlaws_iff {options : List (String × Value)} {flaw : Flaw} :
    flaw ∈ unknownFlaws fields options ↔ flaw.option ∈ options.map Prod.fst ∧
      (∀ name : Name, flaw.option ≠ name.text) ∧ flaw.defect = .unknown := by
  have hany : ∀ option : String,
      fields.any (·.name.text == option) = true ↔ ∃ name : Name, option = name.text := by
    intro option
    rw [List.any_eq_true]
    constructor
    · rintro ⟨field, -, h⟩
      exact ⟨field.name, (eq_of_beq h).symm⟩
    · rintro ⟨name, rfl⟩
      exact ⟨name.field, name.field_mem_fields, by rw [Name.name_field, beq_self_eq_true]⟩
  rw [unknownFlaws, List.mem_filterMap, List.mem_map]
  constructor
  · rintro ⟨entry, hentry, hflaw⟩
    dsimp only at hflaw
    split at hflaw
    · cases hflaw
    · next hnot =>
        rw [hany, not_exists] at hnot
        rw [← Option.some.inj hflaw]
        exact ⟨⟨entry, hentry, rfl⟩, hnot, rfl⟩
  · rintro ⟨⟨entry, hentry, hname⟩, hnot, hdefect⟩
    refine ⟨entry, hentry, ?_⟩
    dsimp only
    rw [if_neg (by rw [hany, not_exists, hname]; exact hnot), hname, ← hdefect]

theorem mem_knownFlaws_iff {options : List (String × Value)}
    (hnames : (options.map Prod.fst).Nodup) {flaw : Flaw} :
    flaw ∈ knownFlaws validator options ↔
      ∃ name given defect, (Name.text name, given) ∈ options ∧
        name.firstDefect? (validator.readText given) = some defect ∧
        flaw = ⟨name.text, defect⟩ := by
  rw [knownFlaws, List.mem_filterMap]
  constructor
  · rintro ⟨name, -, hflaw⟩
    obtain ⟨defect, hdefect, rfl⟩ := Option.map_eq_some_iff.1 hflaw
    obtain ⟨given, hgiven, hfail⟩ := Option.bind_eq_some_iff.1 hdefect
    exact ⟨name, given, defect, Params.mem_of_lookup hgiven, hfail, rfl⟩
  · rintro ⟨name, given, defect, hmem, hfail, rfl⟩
    -- No other entry has the name, so this one is found.
    have hgiven : options.lookup name.text = some given := Params.lookup_of_mem hnames hmem
    exact ⟨name, name.mem_all, by rw [hgiven, Option.bind_some, hfail, Option.map_some]⟩

/-- An option is reported exactly when it is not fit. -/
theorem mem_allFlaws_iff {options : List (String × Value)} (hnames : (options.map Prod.fst).Nodup)
    {option : String} : option ∈ (allFlaws validator options).map Flaw.option ↔
      option ∈ (options.filter fun entry => ¬ IsFit validator entry).map Prod.fst := by
  simp only [allFlaws, List.map_append, List.mem_append, List.mem_map, List.mem_filter,
    decide_eq_true_eq]
  constructor
  · rintro (⟨flaw, hflaw, rfl⟩ | ⟨flaw, hflaw, rfl⟩)
    · obtain ⟨name, given, defect, hmem, hfail, rfl⟩ := (mem_knownFlaws_iff hnames).1 hflaw
      refine ⟨(name.text, given), ⟨hmem, ?_⟩, rfl⟩
      rw [isFit_iff, ← Name.firstDefect?_eq_none_iff, hfail]
      exact Option.some_ne_none defect
    · obtain ⟨hgiven, hnot, -⟩ := mem_unknownFlaws_iff.1 hflaw
      obtain ⟨entry, hmem, hname⟩ := List.mem_map.1 hgiven
      refine ⟨entry, ⟨hmem, ?_⟩, hname⟩
      rintro ⟨name, -, hknown, -⟩
      exact hnot name (hname.symm.trans hknown)
  · rintro ⟨⟨option, given⟩, ⟨hmem, hunfit⟩, rfl⟩
    -- A known option is not fit because a check fails, an unknown one in any case.
    by_cases hknown : ∃ name : Name, option = name.text
    · obtain ⟨name, rfl⟩ := hknown
      rw [isFit_iff, ← Name.firstDefect?_eq_none_iff] at hunfit
      obtain ⟨defect, hfail⟩ := Option.ne_none_iff_exists'.1 hunfit
      exact .inl ⟨⟨name.text, defect⟩,
        (mem_knownFlaws_iff hnames).2 ⟨name, given, defect, hmem, hfail, rfl⟩, rfl⟩
    · exact .inr ⟨⟨option, .unknown⟩,
        mem_unknownFlaws_iff.2 ⟨List.mem_map_of_mem hmem, not_exists.1 hknown, rfl⟩, rfl⟩

theorem allFlaws_eq_nil_iff {options : List (String × Value)}
    (hnames : (options.map Prod.fst).Nodup) :
    allFlaws validator options = [] ↔ ∀ entry ∈ options, IsFit validator entry := by
  have hnil : (allFlaws validator options).map Flaw.option = [] ↔
      (options.filter fun entry => ¬ IsFit validator entry).map Prod.fst = [] := by
    simp only [List.eq_nil_iff_forall_not_mem, mem_allFlaws_iff hnames]
  rw [List.map_eq_nil_iff, List.map_eq_nil_iff, List.filter_eq_nil_iff] at hnil
  rw [hnil]
  simp

end

end FilterQuery.Settings
