/-
Telling fields from texts in a predicate as data.

A condition as data puts the name of its field next to the texts that it compares with, and a marker
in front of the name is there to tell it from them. This module finds out how far that goes.

Every text in the data of a predicate is an operand of one of its conditions: the name of a field
with the marker in front, or a text compared with, as it is (`Predicate.strings_toDatum`). So the
names are all marked, and the question is which of the other texts begin with the marker as well.
Nothing escapes it there: apart from a substring comparison, whose patterns begin with a wildcard,
the texts are those of the query string (`Filter.Course.literals_predicate`). With the standard
marker such a text is always a string, for neither null nor a number nor a date begins so
(`Kind.ofValue_of_marks`). The operands of a condition can therefore be told apart exactly if it
compares by substring or no text of its filter begins with the marker.
-/
import FilterQuery.Predicate.Wire
import FilterQuery.Proofs.WellFormed

set_option autoImplicit false

namespace FilterQuery

open FilterQuery.Text

/-! ## The texts in data -/

mutual

/-- The texts in a datum, from left to right. The keys of records do not count. -/
def Datum.strings : Datum → List String
  | .scalar (.text s) => [s]
  | .scalar _ => []
  | .list items => Datum.itemStrings items
  | .record entries => Datum.entryStrings entries

def Datum.itemStrings : List Datum → List String
  | [] => []
  | item :: rest => item.strings ++ Datum.itemStrings rest

def Datum.entryStrings : List (String × Datum) → List String
  | [] => []
  | (_, value) :: rest => value.strings ++ Datum.entryStrings rest

end

namespace Datum

theorem itemStrings_map_text (texts : List String) : itemStrings (texts.map .text) = texts := by
  induction texts with
  | nil => rfl
  | cons t rest ih =>
      rw [List.map_cons, itemStrings, ih]
      rfl

theorem itemStrings_eq_nil {items : List Datum} (hitems : ∀ item ∈ items, item.strings = []) :
    itemStrings items = [] := by
  induction items with
  | nil => rfl
  | cons item rest ih =>
      obtain ⟨hitem, hrest⟩ := List.forall_mem_cons.1 hitems
      rw [itemStrings, hitem, ih hrest, List.append_nil]

end Datum

/-! ## The operands of conditions -/

/-- An operand of a condition, if it is a text: the name of the field, or what it is compared
with. -/
inductive Operand where
  | reference (field : String)
  | literal (text : String)
deriving DecidableEq

/-- An operand as it stands in data. -/
def Operand.text (settings : Settings) : Operand → String
  | .reference field => settings.fieldMarker ++ field
  | .literal text => text

def Operand.isReference : Operand → Bool
  | .reference _ => true
  | .literal _ => false

/-- Whether a text begins with the marker of fields. -/
def Settings.marks (settings : Settings) (text : String) : Bool :=
  settings.fieldMarker.toList.isPrefixOf text.toList

namespace Predicate

/-- The texts that a predicate compares its fields with. -/
def literals : Predicate → List String
  | .nullCheck _ _ => []
  | .comparison _ _ first rest => Datum.itemStrings (first :: rest)
  | .both left right => left.literals ++ right.literals

/-- The operands of a predicate that are texts, from left to right. -/
def operands : Predicate → List Operand
  | .nullCheck _ field => [.reference field]
  | .comparison _ field first rest =>
    .reference field :: (Datum.itemStrings (first :: rest)).map .literal
  | .both left right => left.operands ++ right.operands

/-- Whether a condition is a substring comparison. -/
def isSubstring : Predicate → Bool
  | .comparison op _ _ _ => op = .like
  | _ => false

/-- **The texts in the data of a predicate are its operands**, the names of fields marked. -/
theorem strings_toDatum (settings : Settings) (p : Predicate) :
    (p.toDatum settings).strings = p.operands.map (Operand.text settings) := by
  induction p with
  | nullCheck check field => rfl
  | comparison op field first rest =>
      have hliterals : ((Datum.itemStrings (first :: rest)).map Operand.literal).map
          (Operand.text settings) = Datum.itemStrings (first :: rest) := by
        rw [List.map_map]
        exact List.map_id _
      rw [operands, List.map_cons, hliterals, toDatum]
      by_cases hset : op.isSet = true
      · simp [hset, Datum.strings, Datum.itemStrings, Datum.entryStrings, reference, Datum.text,
          Operand.text]
      · simp [hset, Datum.strings, Datum.itemStrings, Datum.entryStrings, reference, Datum.text,
          Operand.text]
  | both left right ihleft ihright =>
      rw [operands, List.map_append, ← ihleft, ← ihright, toDatum]
      simp [Datum.strings, Datum.itemStrings, Datum.entryStrings]

theorem operands_eq_flatMap_leaves (p : Predicate) : p.operands = p.leaves.flatMap operands := by
  induction p with
  | nullCheck check field => rfl
  | comparison op field first rest => exact (List.append_nil _).symm
  | both left right ihleft ihright =>
      rw [operands, leaves, List.flatMap_append, ← ihleft, ← ihright]

/-- The operands of a condition are the name of its field and then the texts compared with. -/
theorem exists_operands_of_isLeaf {p : Predicate} (hp : p.IsLeaf) :
    ∃ field, p.operands = .reference field :: p.literals.map .literal := by
  cases p with
  | nullCheck check field => exact ⟨field, rfl⟩
  | comparison op field first rest => exact ⟨field, rfl⟩
  | both left right => cases hp

end Predicate

/-! ## Marked texts -/

/-- The name of a field is marked, always. -/
theorem Settings.marks_reference (settings : Settings) (field : String) :
    settings.marks ((Operand.reference field).text settings) = true := by
  rw [Settings.marks, Operand.text, String.toList_append, List.isPrefixOf_iff_prefix]
  exact List.prefix_append _ _

/-- Trimming stops at once at a character that is not blank. -/
theorem Text.exists_trim_cons {c : Char} (hc : isBlank c = false) (s : List Char) :
    ∃ rest, trim (c :: s) = c :: rest := by
  -- The end is trimmed from behind, and from there the character comes last and stays.
  have hdrop : ∀ t : List Char, (t ++ [c]).dropWhile isBlank = t.dropWhile isBlank ++ [c] := by
    intro t
    induction t with
    | nil => simp [hc]
    | cons d t ih =>
        by_cases hd : isBlank d = true
        · simp [hd, ih]
        · simp [hd]
  refine ⟨trimEnd s, ?_⟩
  have hhead : (c :: s).dropWhile isBlank = c :: s := by simp [hc]
  rw [trim, hhead, trimEnd, List.reverse_cons, hdrop, List.reverse_append]
  rfl

/-- **A text that begins with the standard marker is a string**: the word for null, a number and a
date begin otherwise. -/
theorem Kind.ofValue_of_marks {t : String} (ht : Settings.standard.marks t = true) :
    Kind.ofValue .standard t = .string := by
  obtain ⟨s, hs⟩ := List.isPrefixOf_iff_prefix.1 ht
  obtain ⟨rest, htrim⟩ := exists_trim_cons (c := '#') (by decide) s
  have htext : trim t.toList = '#' :: rest := by
    rw [← hs]
    exact htrim
  have hdigit : digitValue? '#' = none := by decide
  have hnull : ¬ isNullWord .standard t = true := by
    have hword : lower Settings.standard.nullWord.toList = ['n', 'u', 'l', 'l'] := by decide
    have hlower : lower ('#' :: rest) = '#' :: LowerCase.walk ['#'] rest := rfl
    rw [isNullWord, htext, hword, hlower, decide_eq_true_eq]
    intro h
    cases h
  have hnumber : ¬ isNumber ('#' :: rest) = true := by
    simp [isNumber, Numeral.ofChars?, Numeral.takeSign, Numeral.takeDigits, hdigit,
      Numeral.takeFraction]
  have hdate : ¬ Calendar.isDate ('#' :: rest) = true := by
    have hyear : Calendar.takeNumber 4 ('#' :: rest) = none := by
      rw [Calendar.takeNumber]
      simp [isAsciiDigit]
    rw [Calendar.isDate, Calendar.takeDay, hyear]
    simp
  rw [ofValue, if_neg hnull, htext, if_neg hnumber, if_neg hdate]

/-- A pattern begins with the standard wildcard, so it is not marked. -/
theorem Settings.marks_pattern (t : String) :
    Settings.standard.marks (Settings.standard.wildcard ++ t ++ Settings.standard.wildcard)
      = false := by
  rw [marks, String.toList_append, String.toList_append]
  rfl

/-- The operands of a condition are told apart by the marker if it is on no text compared with. -/
theorem Predicate.forall_operands_iff {settings : Settings} {p : Predicate} (hp : p.IsLeaf) :
    (∀ o ∈ p.operands, settings.marks (o.text settings) = o.isReference) ↔
      ∀ s ∈ p.literals, settings.marks s = false := by
  obtain ⟨field, hoperands⟩ := p.exists_operands_of_isLeaf hp
  rw [hoperands, List.forall_mem_cons, List.forall_mem_map]
  exact and_iff_right (settings.marks_reference field)

/-! ## The texts of a filter in its condition -/

namespace Filter.Course

variable {settings : Settings} {f : Filter}

/-- Null and numbers put no text into a condition. -/
theorem literals_eq_nil (c : Course settings f) (hkind : c.kind = .null ∨ c.kind = .number) :
    c.predicate.literals = [] := by
  have hvalues : ∀ v ∈ c.first :: c.rest, (Datum.scalar v).strings = [] := by
    intro v hv
    have hvalue := (c.isValue v hv).1
    rcases hkind with hnull | hnumber
    · rw [hnull] at hvalue
      rw [hvalue.1]
      rfl
    · rw [hnumber] at hvalue
      cases v with
      | text t => cases hvalue
      | _ => rfl
  have hsuits := c.suits
  rw [predicate]
  cases hrelation : c.relation with
  | nullCheck check => rfl
  | comparison op =>
      rw [hrelation] at hsuits
      have hop : op ≠ .like := by
        rintro rfl
        have hstring := (hsuits.resolve_left Bool.false_ne_true).2.2 rfl
        rw [hstring] at hkind
        simp at hkind
      rw [Predicate.onField_of_ne_like hop]
      refine Datum.itemStrings_eq_nil ?_
      rw [List.forall_mem_cons, List.forall_mem_map]
      exact List.forall_mem_cons.1 hvalues

/-- **Dates and strings are put into a condition as they are**, all of them, except that a substring
comparison has patterns instead. -/
theorem literals_of_text (c : Course settings f) (hkind : c.kind = .date ∨ c.kind = .string) :
    c.predicate.literals = if c.predicate.isSubstring = true
      then f.value.texts.map fun t => settings.wildcard ++ t ++ settings.wildcard
      else f.value.texts := by
  have hvalues : c.first :: c.rest = f.value.texts.map .text := by
    have hread := c.read_eq
    rcases hkind with h | h <;> rw [h] at hread <;> exact (Except.ok.inj hread).symm
  have hsuits := c.suits
  rw [predicate]
  cases hrelation : c.relation with
  | nullCheck check =>
      rw [hrelation] at hsuits
      rw [hsuits.1] at hkind
      simp at hkind
  | comparison op =>
      by_cases hop : op = .like
      · subst hop
        have hitems : (c.first :: c.rest).map (fun v => Predicate.pattern settings (.scalar v))
            = (f.value.texts.map fun t => settings.wildcard ++ t ++ settings.wildcard).map
              .text := by
          rw [hvalues, List.map_map, List.map_map]
          exact List.map_congr_left fun t _ => Predicate.pattern_text settings t
        rw [if_pos (by rfl), ← Datum.itemStrings_map_text (f.value.texts.map _), ← hitems]
        rfl
      · have hitems : (c.first :: c.rest).map Datum.scalar = f.value.texts.map .text := by
          rw [hvalues, List.map_map]
          rfl
        rw [Predicate.onField_of_ne_like hop, if_neg (by simpa [Predicate.isSubstring] using hop),
          ← Datum.itemStrings_map_text f.value.texts, ← hitems]
        rfl

end Filter.Course

/-- **Which texts of a condition are marked** under the standard settings: those of its filter,
unless it compares by substring. -/
theorem Filter.Course.forall_literals_iff {f : Filter} (c : f.Course .standard) :
    (∀ s ∈ c.predicate.literals, Settings.standard.marks s = false) ↔
      c.predicate.isSubstring = true ∨ ∀ t ∈ f.value.texts, Settings.standard.marks t = false := by
  by_cases hkind : c.kind = .null ∨ c.kind = .number
  · rw [c.literals_eq_nil hkind]
    refine iff_of_true (fun s hs => absurd hs List.not_mem_nil) (.inr fun t ht => ?_)
    -- A marked text would be a string.
    by_contra hmarks
    rw [Bool.not_eq_false] at hmarks
    have hstring := (c.ofValue_eq t ht).symm.trans (Kind.ofValue_of_marks hmarks)
    rw [hstring] at hkind
    simp at hkind
  · have htext : c.kind = .date ∨ c.kind = .string := by
      cases h : c.kind <;> simp [h] at hkind ⊢
    rw [c.literals_of_text htext]
    by_cases hlike : c.predicate.isSubstring = true
    · rw [if_pos hlike, List.forall_mem_map]
      exact iff_of_true (fun t _ => Settings.marks_pattern t) (.inl hlike)
    · rw [if_neg hlike]
      exact (or_iff_right hlike).symm

/-! ## The predicate of a query string -/

/-- **What the marker tells.** The texts in the data of a predicate that was read are the operands
of its conditions, and in the data of one condition the names of fields are the marked ones exactly
if it compares by substring or no text of its filter begins with the marker. -/
theorem marks_eq_isReference_iff {query : String} {outcome : Outcome} {notes : List Note}
    {t : Predicate} (hparse : parse .standard query = .ok (outcome, notes))
    (ht : outcome.predicate = some t) :
    (t.toDatum .standard).strings
        = (t.leaves.flatMap Predicate.operands).map (Operand.text .standard) ∧
      List.Forall₂ (fun f leaf =>
        (∀ o ∈ leaf.operands, Settings.standard.marks (o.text .standard) = o.isReference) ↔
          leaf.isSubstring = true ∨ ∀ v ∈ f.value.texts, Settings.standard.marks v = false)
        (Filter.ofParams .standard (Params.ofQuery .standard query)) t.leaves := by
  constructor
  · rw [Predicate.strings_toDatum, Predicate.operands_eq_flatMap_leaves]
  · refine (forall₂_of_parse hparse ht).2.imp ?_
    rintro f leaf ⟨note, hread⟩
    rw [Predicate.forall_operands_iff (Filter.isLeaf_of_read hread)]
    obtain ⟨c, rfl, -⟩ := Filter.read_eq_ok_iff.1 hread
    exact c.forall_literals_iff

/-- Texts that begin with the marker, in a substring comparison and in a list, and a null check. -/
theorem marks_eq_isReference_iff_of_three_filters :
    let query := "filter[a]=#b&filter[c]=x,#d&filter[e]=null"
    let t : Predicate := .both (.both (.comparison .like "a" (.text "%#b%") [])
      (.comparison .oneOf "c" (.text "x") [.text "#d"])) (.nullCheck .isNull "e")
    let notes : List Note := [
      .read "filter[a]" .string (.comparison .like) (.comparison .like),
      .read "filter[c]" .string (.comparison .oneOf) (.comparison .oneOf),
      .read "filter[e]" .null .isNull (.nullCheck .isNull)]
    parse .standard query = .ok ({ predicate := some t }, notes) ∧
      (t.toDatum .standard).strings
        = (t.leaves.flatMap Predicate.operands).map (Operand.text .standard) ∧
      List.Forall₂ (fun f leaf =>
        (∀ o ∈ leaf.operands, Settings.standard.marks (o.text .standard) = o.isReference) ↔
          leaf.isSubstring = true ∨ ∀ v ∈ f.value.texts, Settings.standard.marks v = false)
        (Filter.ofParams .standard (Params.ofQuery .standard query)) t.leaves := by
  intro query t notes
  have hparse : parse .standard query = .ok ({ predicate := some t }, notes) :=
    eq_ok_of_toOption (by decide +kernel)
  exact ⟨hparse, marks_eq_isReference_iff hparse rfl⟩

/-- A text that is handed on as if it were the name of a field: in the data of the condition it is
what a reference to the field `b` would be. -/
theorem literal_eq_reference :
    let t : Predicate := .comparison .equal "a" (.text "#b") []
    (parse .standard "filter[a][eq]=#b").toOption.map (·.1) = some { predicate := some t } ∧
      t.operands = [.reference "a", .literal "#b"] ∧
      Settings.standard.marks ((Operand.literal "#b").text .standard) = true ∧
      t.toDatum .standard = .record [("=", .list [Predicate.reference .standard "a",
        Predicate.reference .standard "b"])] := by
  decide +kernel

end FilterQuery
