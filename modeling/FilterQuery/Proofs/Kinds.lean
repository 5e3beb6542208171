/-
What reading the values of a kind gives, and writing it again.

The kind of a value and its reading are found by separate walks over its text, and they agree: a
text that was found to be a number is read as one that can be held (`exists_readNumber`), so reading
the values of their own kind never fails (`exists_read`). `IsValue` says what comes out, kind by
kind.

The second half is the way back. A number is not written as it was spelled, and null is written as
its word, but the new text is read as the same value (`read_spell`). It is of the same kind too, with
one exception: a number may be taken for the word for null (`ofValue_spell_iff`), which cannot happen
when that word is no number itself (`not_isNullWord_spell`).
-/
import FilterQuery.Kind
import FilterQuery.Predicate.Canonical
import FilterQuery.Proofs.Trimming
import Mathlib.Data.List.Forall2

set_option autoImplicit false

namespace FilterQuery

open FilterQuery.Text

/-! ## Numbers that can be held -/

namespace Numeral

theorem lt_ten_of_mem_takeDigits {s : List Char} : ∀ d ∈ (takeDigits s).1, d < 10 := by
  induction s with
  | nil => simp [takeDigits]
  | cons c rest ih =>
      rw [takeDigits]
      cases hc : digitValue? c with
      | none => simp
      | some d => exact List.forall_mem_cons.2 ⟨digitValue?_lt hc, ih⟩

theorem lt_ten_of_mem_whole {s : List Char} {n : Numeral} (h : ofChars? s = some n) :
    ∀ d ∈ n.whole, d < 10 := by
  rw [ofChars?] at h
  dsimp only at h
  split at h
  · cases h
  · obtain ⟨e, -, rfl⟩ := Option.map_eq_some_iff.1 h
    exact lt_ten_of_mem_takeDigits

/-- An integer has no more digits than its numeral. -/
theorem natAbs_toInt (n : Numeral) : n.toInt.natAbs = ofDigits n.whole := by
  rw [toInt]
  split <;> omega

end Numeral

/-- The numbers that reading gives: integers within the digit limit and finite binary numbers. -/
def Scalar.IsNumber : Scalar → Prop
  | .int n => n.natAbs < 10 ^ Numeral.integerDigitLimit
  | .float x => x.isFinite = true
  | _ => False

namespace Kind

theorem isNumber_iff {text : List Char} :
    isNumber text = true ↔ ∃ n, Numeral.ofChars? text = some n ∧ n.isHeld = true := by
  rw [isNumber]
  cases h : Numeral.ofChars? text with
  | none => simp
  | some n => simp

/-- **A text found to be a number is read as one**, and as one that can be held. -/
theorem exists_readNumber {value : String} (h : isNumber (trim value.toList) = true) :
    ∃ v, readNumber value = .ok v ∧ v.IsNumber := by
  obtain ⟨n, hn, hheld⟩ := isNumber_iff.1 h
  rw [Numeral.isHeld] at hheld
  rw [readNumber, hn]
  dsimp only
  by_cases hint : n.isInteger = true
  · rw [if_pos hint, decide_eq_true_eq] at hheld
    rw [if_neg (by simp [hint]), if_pos hheld]
    refine ⟨_, rfl, ?_⟩
    rw [Scalar.IsNumber, Numeral.natAbs_toInt]
    refine lt_of_lt_of_le (ofDigits_lt (Numeral.lt_ten_of_mem_whole hn)) ?_
    exact pow_le_pow_right₀ (by norm_num) hheld
  · rw [if_neg hint] at hheld
    rw [if_pos (by simp [hint])]
    exact ⟨_, rfl, hheld⟩

/-! ## Writing a number -/

/-- The number of digits of an integer that can be held. -/
theorem length_toDigits_le {n : Nat} (h : n < 10 ^ Numeral.integerDigitLimit) :
    (Nat.toDigits 10 n).length ≤ Numeral.integerDigitLimit :=
  (Nat.length_toDigits_le_iff (by decide) (by decide)).2 h

/-- **A number that can be held is written as one, and read back.** -/
theorem exists_spelling {v : Scalar} (hv : v.IsNumber) :
    ∃ s : Numeral.Spelling, v.plain = s.text ∧ isNumber s.text = true ∧
      readNumber (String.ofList s.text) = .ok v := by
  cases v with
  | int n =>
      obtain ⟨s, htext, hinteger, hvalue, hlength⟩ := Numeral.exists_spelling_int n
      -- An integer is written with as many digits as it needs, so it is within the limit again.
      have hlimit : s.numeral.whole.length ≤ Numeral.integerDigitLimit := by
        rw [hlength]
        exact length_toDigits_le hv
      refine ⟨s, htext, isNumber_iff.2 ⟨_, s.ofChars?_text, ?_⟩, ?_⟩
      · rw [Numeral.isHeld, if_pos hinteger]
        exact decide_eq_true hlimit
      · rw [readNumber, String.toList_ofList, trim_text, s.ofChars?_text]
        dsimp only
        rw [if_neg (by simp [hinteger]), if_pos hlimit, hvalue]
  | float x =>
      cases x with
      | finite negative p =>
          obtain ⟨s, htext, hinteger, hvalue⟩ := Numeral.exists_spelling_float negative p
          refine ⟨s, htext, isNumber_iff.2 ⟨_, s.ofChars?_text, ?_⟩, ?_⟩
          · rw [Numeral.isHeld, if_neg (by simp [hinteger]), hvalue]
            rfl
          · rw [readNumber, String.toList_ofList, trim_text, s.ofChars?_text]
            dsimp only
            rw [if_pos (by simp [hinteger]), hvalue]
      | infinite negative => cases hv
      | nan payload => cases hv
  | null => cases hv
  | bool value => cases hv
  | text value => cases hv

/-! ## The values of a kind -/

section

variable {settings : Settings}

/-- What the values of a kind are read as. Null is a value only if the word for it is read so. -/
def IsValue (settings : Settings) : Kind → Scalar → Prop
  | .null, v => v = .null ∧ isNullWord settings settings.nullWord = true
  | .number, v => v.IsNumber
  | .date, v => ∃ t, v = .text t ∧ ofValue settings t = .date
  | .string, v => ∃ t, v = .text t ∧ ofValue settings t = .string

theorem ofValue_eq_null_iff {t : String} :
    ofValue settings t = .null ↔ isNullWord settings t = true := by
  rw [ofValue]
  split
  · next h => simp [h]
  · next h =>
      split
      · simp [h]
      · split <;> simp [h]

theorem isNumber_of_ofValue {t : String} (h : ofValue settings t = .number) :
    isNumber (trim t.toList) = true := by
  rw [ofValue] at h
  split at h
  · cases h
  · split at h
    · next hnumber => exact hnumber
    · split at h <;> cases h

/-- Whatever is read as null, the word for null is. -/
theorem isNullWord_nullWord {t : String} (h : isNullWord settings t = true) :
    isNullWord settings settings.nullWord = true := by
  rw [isNullWord, decide_eq_true_eq] at h ⊢
  rw [trim_eq_of_lower_eq h]

/-- **What is read as null can be written so**: the word for null is read as null itself. -/
theorem ofValue_nullWord (h : isNullWord settings settings.nullWord = true) :
    ofValue settings settings.nullWord = .null :=
  ofValue_eq_null_iff.2 h

/-! ## Reading one value -/

/-- The reading of a single value of a kind. -/
def readOne : Kind → String → Except Misuse Scalar
  | .null, _ => .ok .null
  | .number, t => readNumber t
  | .date, t | .string, t => .ok (.text t)

/-- Values are read one by one. -/
theorem read_eq_mapM (kind : Kind) (texts : List String) :
    kind.read texts = texts.mapM kind.readOne := by
  have hpure : ∀ g : String → Scalar,
      texts.mapM (fun t => (.ok (g t) : Except Misuse Scalar)) = .ok (texts.map g) :=
    fun g => List.mapM_pure
  cases kind with
  | null => exact (hpure fun _ => .null).symm
  | number => rfl
  | date => exact (hpure .text).symm
  | string => exact (hpure .text).symm

theorem exists_readOne {kind : Kind} {t : String} (h : ofValue settings t = kind) :
    ∃ v, kind.readOne t = .ok v := by
  cases kind with
  | null => exact ⟨_, rfl⟩
  | date => exact ⟨_, rfl⟩
  | string => exact ⟨_, rfl⟩
  | number =>
      obtain ⟨v, hv, -⟩ := exists_readNumber (isNumber_of_ofValue h)
      exact ⟨v, hv⟩

/-- A text of a kind is read as a value of that kind. -/
theorem isValue_of_readOne {kind : Kind} {t : String} {v : Scalar} (h : ofValue settings t = kind)
    (hv : kind.readOne t = .ok v) : kind.IsValue settings v := by
  cases kind with
  | null =>
      cases hv
      exact ⟨rfl, isNullWord_nullWord (ofValue_eq_null_iff.1 h)⟩
  | date =>
      cases hv
      exact ⟨t, rfl, h⟩
  | string =>
      cases hv
      exact ⟨t, rfl, h⟩
  | number =>
      obtain ⟨w, hw, hnumber⟩ := exists_readNumber (isNumber_of_ofValue h)
      have heq : w = v := Except.ok.inj (hw.symm.trans hv)
      rw [← heq]
      exact hnumber

/-- **Values are null, numbers or texts**, and a text is of the kind that it looks like. -/
theorem IsValue.cases {kind : Kind} {v : Scalar} (hv : kind.IsValue settings v) :
    (kind = .null ∧ v = .null ∧ isNullWord settings settings.nullWord = true) ∨
      (kind = .number ∧ v.IsNumber) ∨
      ∃ t, v = .text t ∧ ofValue settings t = kind ∧ kind.readOne t = .ok (.text t) := by
  cases kind with
  | null => exact .inl ⟨rfl, hv⟩
  | number => exact .inr (.inl ⟨rfl, hv⟩)
  | date =>
      obtain ⟨t, rfl, ht⟩ := hv
      exact .inr (.inr ⟨t, rfl, ht, rfl⟩)
  | string =>
      obtain ⟨t, rfl, ht⟩ := hv
      exact .inr (.inr ⟨t, rfl, ht, rfl⟩)

/-! ## Writing a value and reading it again -/

/-- Only null is written as something else than a person reads. -/
theorem spell_of_isNumber {v : Scalar} (hv : v.IsNumber) :
    Predicate.spell settings (.scalar v) = String.ofList v.plain := by
  cases v with
  | int n => rfl
  | float x => rfl
  | null => cases hv
  | bool b => cases hv
  | text t => cases hv

theorem spell_text (t : String) : Predicate.spell settings (.scalar (.text t)) = t := by
  simp [Predicate.spell, Datum.plain, Scalar.plain]

/-- A value that is no text is written as something that holds no separator, if neither the word
for null nor a number does. -/
theorem not_mem_spell {kind : Kind} {v : Scalar} (hv : kind.IsValue settings v)
    (hmarks : ¬ LowerCase.IsNumberChar settings.separator)
    (hnull : settings.separator ∉ settings.nullWord.toList)
    (htext : ∀ t, v = .text t → settings.separator ∉ t.toList) :
    settings.separator ∉ (Predicate.spell settings (.scalar v)).toList := by
  rcases hv.cases with ⟨-, rfl, -⟩ | ⟨-, hnumber⟩ | ⟨t, rfl, -, -⟩
  · exact hnull
  · obtain ⟨s, hplain, -⟩ := exists_spelling hnumber
    rw [spell_of_isNumber hnumber, String.toList_ofList, hplain]
    exact fun hmem => hmarks (Numeral.Spelling.mem_text hmem)
  · rw [spell_text]
    exact htext t rfl

/-- **A value is written as a text that is read as it**, by the reading of its kind. -/
theorem readOne_spell {kind : Kind} {v : Scalar} (hv : kind.IsValue settings v) :
    kind.readOne (Predicate.spell settings (.scalar v)) = .ok v := by
  rcases hv.cases with ⟨rfl, rfl, -⟩ | ⟨rfl, hnumber⟩ | ⟨t, rfl, -, hread⟩
  · rfl
  · obtain ⟨s, hplain, -, hread⟩ := exists_spelling hnumber
    rw [spell_of_isNumber hnumber, hplain]
    exact hread
  · rw [spell_text]
    exact hread

/-- **A value is written as a text of its kind**, except that a number may be taken for null. -/
theorem ofValue_spell_iff {kind : Kind} {v : Scalar} (hv : kind.IsValue settings v) :
    ofValue settings (Predicate.spell settings (.scalar v)) = kind ↔
      (v.IsNumber → ¬ isNullWord settings (Predicate.spell settings (.scalar v)) = true) := by
  rcases hv.cases with ⟨rfl, rfl, hnull⟩ | ⟨rfl, hnumber⟩ | ⟨t, rfl, ht, -⟩
  · exact iff_of_true (ofValue_nullWord hnull) (fun h => h.elim)
  · obtain ⟨s, hplain, hheld, -⟩ := exists_spelling hnumber
    rw [spell_of_isNumber hnumber, hplain, ofValue, String.toList_ofList, trim_text, if_pos hheld]
    by_cases hnull : isNullWord settings (String.ofList s.text) = true
    · rw [if_pos hnull]
      exact iff_of_false (by decide) (fun h => h hnumber hnull)
    · rw [if_neg hnull]
      exact iff_of_true rfl (fun _ => hnull)
  · rw [spell_text]
    exact iff_of_true ht (fun h => h.elim)

/-- No number is taken for null when the word for null is no numeral: folding the exponent mark of
the number would make a numeral of that word. -/
theorem not_isNullWord_spell {v : Scalar} (hv : v.IsNumber)
    (hword : Numeral.ofChars? settings.nullWord.toList = none) :
    ¬ isNullWord settings (Predicate.spell settings (.scalar v)) = true := by
  obtain ⟨s, hplain, -, -⟩ := exists_spelling hv
  rw [spell_of_isNumber hv, hplain, isNullWord, decide_eq_true_eq, String.toList_ofList, trim_text]
  intro hlower
  have hnumeral := Numeral.ofChars?_map_foldMark settings.nullWord.toList
  rw [map_foldMark_of_lower_eq hlower, s.ofChars?_text, hword] at hnumeral
  cases hnumeral

/-! ## Reading the values of a filter -/

/-- Each step of a loop that stops at the first failure. -/
theorem mapM_eq_ok_iff {α β ε : Type} {f : α → Except ε β} {xs : List α} {ys : List β} :
    xs.mapM f = .ok ys ↔ List.Forall₂ (fun x y => f x = .ok y) xs ys := by
  induction xs generalizing ys with
  | nil =>
      rw [List.mapM_nil, List.forall₂_nil_left_iff]
      exact ⟨fun h => (Except.ok.inj h).symm, fun h => congrArg Except.ok h.symm⟩
  | cons x xs ih =>
      rw [List.mapM_cons, List.forall₂_cons_left_iff]
      constructor
      · intro h
        cases hx : f x with
        | error e => rw [hx] at h; cases h
        | ok y =>
            cases hxs : xs.mapM f with
            | error e => rw [hx, hxs] at h; cases h
            | ok ys' =>
                rw [hx, hxs] at h
                exact ⟨y, ys', rfl, ih.1 hxs, (Except.ok.inj h).symm⟩
      · rintro ⟨y, ys', hy, hys, rfl⟩
        rw [hy, ih.2 hys]
        rfl

theorem read_eq_ok_iff {kind : Kind} {texts : List String} {values : List Scalar} :
    kind.read texts = .ok values ↔
      List.Forall₂ (fun t v => kind.readOne t = .ok v) texts values := by
  rw [read_eq_mapM]
  exact mapM_eq_ok_iff

/-- **Values that share a kind are read**, without fail. -/
theorem exists_read {kind : Kind} {texts : List String}
    (hkind : ∀ t ∈ texts, ofValue settings t = kind) : ∃ values, kind.read texts = .ok values := by
  induction texts with
  | nil => exact ⟨[], read_eq_ok_iff.2 .nil⟩
  | cons t rest ih =>
      obtain ⟨v, hv⟩ := exists_readOne (hkind t List.mem_cons_self)
      obtain ⟨values, hvalues⟩ := ih fun u hu => hkind u (List.mem_cons_of_mem t hu)
      exact ⟨v :: values, read_eq_ok_iff.2 (.cons hv (read_eq_ok_iff.1 hvalues))⟩

/-- Every value that was read is a value of the kind, read from one of the texts. -/
theorem exists_mem_of_mem_read {kind : Kind} {texts : List String} {values : List Scalar}
    (hkind : ∀ t ∈ texts, ofValue settings t = kind) (hread : kind.read texts = .ok values) :
    ∀ v ∈ values, kind.IsValue settings v ∧ ∃ t ∈ texts, kind.readOne t = .ok v := by
  have hall := read_eq_ok_iff.1 hread
  clear hread
  induction hall with
  | nil => simp
  | @cons t v texts values hv _ ih =>
      have ht := hkind t List.mem_cons_self
      intro w hw
      rcases List.mem_cons.1 hw with rfl | hw
      · exact ⟨isValue_of_readOne ht hv, t, List.mem_cons_self, hv⟩
      · obtain ⟨hvalue, u, hu, hread⟩ := ih (fun u hu => hkind u (List.mem_cons_of_mem t hu)) w hw
        exact ⟨hvalue, u, List.mem_cons_of_mem t hu, hread⟩

theorem length_of_read {kind : Kind} {texts : List String} {values : List Scalar}
    (hread : kind.read texts = .ok values) : values.length = texts.length :=
  (read_eq_ok_iff.1 hread).length_eq.symm

/-- **Values are written as texts that are read as them**, all together. -/
theorem read_spell {kind : Kind} {values : List Scalar}
    (hvalues : ∀ v ∈ values, kind.IsValue settings v) :
    kind.read (values.map fun v => Predicate.spell settings (.scalar v)) = .ok values := by
  rw [read_eq_ok_iff, List.forall₂_map_left_iff, List.forall₂_same]
  exact fun v hv => readOne_spell (hvalues v hv)

/-! ## The kind that values share -/

theorem shared?_eq_some_iff {texts : List String} (hne : texts ≠ []) {kind : Kind} :
    shared? settings texts = .ok (some kind) ↔ ∀ t ∈ texts, ofValue settings t = kind := by
  obtain ⟨t, rest, rfl⟩ := List.exists_cons_of_ne_nil hne
  rw [shared?, List.forall_mem_cons]
  split
  · next hall =>
      have hrest : ∀ u ∈ rest, ofValue settings u = ofValue settings t := by simpa using hall
      rw [Except.ok.injEq, Option.some.injEq]
      constructor
      · rintro rfl
        exact ⟨rfl, hrest⟩
      · exact And.left
  · next hall =>
      have hrest : ¬ ∀ u ∈ rest, ofValue settings u = ofValue settings t := by simpa using hall
      constructor
      · intro h
        cases h
      · rintro ⟨rfl, h⟩
        exact absurd h hrest

theorem exists_shared? (settings : Settings) {texts : List String} (hne : texts ≠ []) :
    ∃ kind, shared? settings texts = .ok kind := by
  obtain ⟨t, rest, rfl⟩ := List.exists_cons_of_ne_nil hne
  exact ⟨_, rfl⟩

end

end Kind

end FilterQuery
