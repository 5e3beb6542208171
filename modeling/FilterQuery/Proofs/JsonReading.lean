/-
Data written as JSON are read back.

Two things are shown of everything that is written: a reader finds in it what was written, whatever
follows, and there is no control character in it, so that it stands on one line. The first needs a
little more to go through. A reader looks at the first character to see what it has before it, and
takes a number as far as its characters reach, so the text must begin well, and what follows must not
go on with a number. `IsWritten` says all of this of one datum. It is shown for scalars and handed on
to lists and records, item by item.

What has no JSON spelling are the numbers that are not finite; so data are finite here, and what the
program writes is.
-/
import FilterQuery.Proofs.JsonNumber
import FilterQuery.Proofs.JsonText

set_option autoImplicit false

namespace FilterQuery

/-! ## Finite data -/

/-- A scalar that has a JSON spelling. -/
def Scalar.IsFinite : Scalar → Prop
  | .float x => x.isFinite = true
  | _ => True

/-- Data in which every number is finite. -/
inductive Datum.IsFinite : Datum → Prop
  | scalar {v : Scalar} (hv : v.IsFinite) : IsFinite (.scalar v)
  | list {items : List Datum} (hitems : ∀ d ∈ items, IsFinite d) : IsFinite (.list items)
  | record {entries : List (String × Datum)} (hentries : ∀ entry ∈ entries, IsFinite entry.2) :
      IsFinite (.record entries)

namespace Json

open Numeral

variable {charset : Charset}

/-! ## What is shown of a datum -/

/-- What may follow a number for the number to end there. -/
def EndsNumber (rest : List Char) : Prop :=
  ∀ c ∈ rest.head?, isNumberSign c = false

theorem endsNumber_nil : EndsNumber [] := by
  intro c hc
  cases hc

theorem endsNumber_cons {c : Char} (rest : List Char) (hc : isNumberSign c = false) :
    EndsNumber (c :: rest) := by
  intro d hd
  cases hd
  exact hc

/-- A datum that is written so that it can be read. -/
structure IsWritten (charset : Charset) (d : Datum) : Prop where
  /-- Neither a blank nor the end of a list comes first. -/
  begins : ∃ c rest, ofDatum charset d = c :: rest ∧ isBlank c = false ∧ c ≠ ']'
  isShown : ∀ c ∈ ofDatum charset d, IsShown c
  takeValue?_eq : ∀ (steps : Nat) (rest : List Char), (ofDatum charset d).length ≤ steps →
    EndsNumber rest → takeValue? steps (ofDatum charset d ++ rest) = some (d, rest)

/-! ## Blanks -/

theorem skip_cons {c : Char} (rest : List Char) (hc : isBlank c = false) :
    skip (c :: rest) = c :: rest := by
  rw [skip, List.dropWhile_cons_of_neg (by simp [hc])]

theorem skip_blank (rest : List Char) : skip (' ' :: rest) = skip rest := rfl

theorem takeValue?_blank (steps : Nat) (rest : List Char) :
    takeValue? steps (' ' :: rest) = takeValue? steps rest := by
  cases steps with
  | zero => rfl
  | succ steps => rw [takeValue?, takeValue?, skip_blank]

theorem takeMember?_blank (takeOne : List Char → Option (Datum × List Char)) (rest : List Char) :
    takeMember? takeOne (' ' :: rest) = takeMember? takeOne rest := by
  rw [takeMember?, takeMember?, skip_blank]

theorem takeValue?_list (steps : Nat) (rest : List Char) :
    takeValue? (steps + 1) ('[' :: rest) = (takeEnclosed? (takeValue? steps) ']' rest).map
      fun (items, rest) => (.list items, rest) := rfl

theorem takeValue?_record (steps : Nat) (rest : List Char) :
    takeValue? (steps + 1) ('\x7b' :: rest)
      = (takeEnclosed? (takeMember? (takeValue? steps)) '\x7d' rest).map
        fun (entries, rest) => (.record entries, rest) := rfl

/-! ## Scalars -/

/-- A value that begins like neither a list nor a record is a scalar. -/
theorem takeValue?_of_scalar {c : Char} {rest : List Char} (steps : Nat) (hblank : isBlank c = false)
    (hlist : c ≠ '[') (hrecord : c ≠ '\x7b') :
    takeValue? (steps + 1) (c :: rest)
      = (takeScalar? (c :: rest)).map fun (v, rest) => (.scalar v, rest) := by
  rw [takeValue?, skip_cons rest hblank]
  split
  · next h => exact absurd (List.cons.inj h).1 hlist
  · next h => exact absurd (List.cons.inj h).1 hrecord
  · rfl

/-- What is read as a scalar is written so that it can be read, if it begins well. -/
theorem isWritten_of_takeScalar? {v : Scalar} {c : Char} {behind : List Char}
    (htext : ofScalar charset v = c :: behind) (hblank : isBlank c = false)
    (hmarks : c ≠ ']' ∧ c ≠ '[' ∧ c ≠ '\x7b') (hshown : ∀ d ∈ c :: behind, IsShown d)
    (hread : ∀ rest, EndsNumber rest → takeScalar? (c :: behind ++ rest) = some (v, rest)) :
    IsWritten charset (.scalar v) := by
  have hdatum : ofDatum charset (.scalar v) = c :: behind := htext
  refine ⟨⟨c, behind, hdatum, hblank, hmarks.1⟩, ?_, ?_⟩
  · rw [hdatum]
    exact hshown
  · intro steps rest hsteps hrest
    rw [hdatum] at hsteps ⊢
    obtain ⟨steps, rfl⟩ := Nat.exists_eq_succ_of_ne_zero (Nat.ne_zero_of_lt hsteps)
    have hscalar := hread rest hrest
    rw [List.cons_append] at hscalar ⊢
    rw [takeValue?_of_scalar steps hblank hmarks.2.1 hmarks.2.2, hscalar, Option.map_some]

/-- The signs of numbers begin nothing else. -/
theorem takeScalar?_of_isNumberSign {c : Char} {rest : List Char} (hc : c = '-' ∨ c.isDigit = true) :
    takeScalar? (c :: rest) = (number? ((c :: rest).takeWhile isNumberSign)).map
      fun v => (v, (c :: rest).dropWhile isNumberSign) := by
  have hne : ∀ d : Char, '-' ≠ d ∧ d.isDigit = false → c ≠ d := by
    rintro d ⟨hminus, hdigit⟩ rfl
    rcases hc with hc | hc
    · exact hminus hc.symm
    · rw [hdigit] at hc
      exact Bool.false_ne_true hc
  rw [takeScalar?]
  · exact fun _ h => hne '"' (by decide) (List.cons.inj h).1
  · exact fun _ h => hne 'n' (by decide) (List.cons.inj h).1
  · exact fun _ h => hne 't' (by decide) (List.cons.inj h).1
  · exact fun _ h => hne 'f' (by decide) (List.cons.inj h).1

theorem isShown_of_mem_spelling {s : Spelling} : ∀ c ∈ s.text, IsShown c := by
  intro c hc
  rcases Spelling.mem_text hc with hdigit | hmark
  · exact Nat.le_trans (by decide) (Char.isDigit_iff_toNat.1 hdigit).1
  · have hmarks : ∀ m ∈ Spelling.marks, 0x20 ≤ m.toNat := by simp [Spelling.marks]
    exact hmarks c hmark

/-- **A number is written so that it can be read**: it reaches as far as its signs do. -/
theorem isWritten_of_number {v : Scalar} {s : Spelling} (htext : ofScalar charset v = s.text)
    (hnumber : number? s.text = some v) : IsWritten charset (.scalar v) := by
  obtain ⟨c, behind, hcons, hc⟩ := s.exists_text_eq_cons
  have hsigns : ∀ d ∈ s.text, isNumberSign d = true := fun d hd =>
    Spelling.isNumberSign_of_mem_text hd
  -- The first sign is one of a number, so it is none of the marks that begin or end other values.
  have hmarks : ∀ d : Char, isNumberSign d = false → c ≠ d := by
    rintro d hd rfl
    rw [hsigns c (by rw [hcons]; exact List.mem_cons_self)] at hd
    cases hd
  have hblank : isBlank c = false := by
    simp only [isBlank, Bool.or_eq_false_iff, decide_eq_false_iff_not]
    exact ⟨⟨⟨hmarks ' ' (by decide), hmarks '\t' (by decide)⟩, hmarks '\n' (by decide)⟩,
      hmarks '\r' (by decide)⟩
  apply isWritten_of_takeScalar? (htext.trans hcons) hblank
    ⟨hmarks ']' (by decide), hmarks '[' (by decide), hmarks '\x7b' (by decide)⟩
  · rw [← hcons]
    exact isShown_of_mem_spelling
  · intro rest hrest
    have htake : (s.text ++ rest).takeWhile isNumberSign = s.text := by
      rw [List.takeWhile_append_of_pos hsigns]
      cases rest with
      | nil => simp
      | cons d rest => simp [hrest d rfl]
    have hdrop : (s.text ++ rest).dropWhile isNumberSign = rest := by
      rw [List.dropWhile_append_of_pos hsigns]
      cases rest with
      | nil => rfl
      | cons d rest => rw [List.dropWhile_cons_of_neg (by simp [hrest d rfl])]
    rw [List.cons_append, takeScalar?_of_isNumberSign hc, ← List.cons_append, ← hcons, htake, hdrop,
      hnumber, Option.map_some]

/-- **Scalars are written so that they can be read.** -/
theorem isWritten_scalar {v : Scalar} (hv : v.IsFinite) : IsWritten charset (.scalar v) := by
  have hwords : ∀ word ∈ ["null", "true", "false"], ∀ c ∈ word.toList, IsShown c := by
    simp [IsShown]
  cases v with
  | null =>
      exact isWritten_of_takeScalar? (c := 'n') rfl rfl (by decide) (hwords "null" (by decide))
        (fun rest _ => rfl)
  | bool value =>
      cases value with
      | true =>
          exact isWritten_of_takeScalar? (c := 't') rfl rfl (by decide) (hwords "true" (by decide))
            (fun rest _ => rfl)
      | false =>
          exact isWritten_of_takeScalar? (c := 'f') rfl rfl (by decide) (hwords "false" (by decide))
            (fun rest _ => rfl)
  | int n =>
      obtain ⟨s, htext, hnumber⟩ := exists_number_int n
      exact isWritten_of_number htext hnumber
  | float x =>
      cases x with
      | finite negative p =>
          obtain ⟨s, htext, hnumber⟩ := exists_number_float specialNames negative p
          exact isWritten_of_number htext hnumber
      | infinite negative => cases hv
      | nan payload => cases hv
  | text t =>
      obtain ⟨behind, htext, hread⟩ := exists_ofText charset t
      apply isWritten_of_takeScalar? (v := .text t) (c := '"') htext rfl (by decide)
      · rw [← htext]
        exact isShown_of_mem_ofText
      · intro rest _
        rw [List.cons_append, takeScalar?, hread, Option.map_some]
        dsimp only
        rw [String.ofList_toList]

/-! ## Between brackets

Items and entries are read alike; they differ in what one of them is, and in the brackets. -/

section Enclosed

variable {α : Type} {takeOne : List Char → Option (α × List Char)} {write : α → List Char}
  {closing : Char}

/-- Parts with a comma and a blank between each two of them. -/
def separated (parts : List (List Char)) : List Char := [',', ' '].intercalate parts

theorem separated_singleton (p : List Char) : separated [p] = p := by
  simp [separated, List.intercalate]

theorem separated_cons_cons (p q : List Char) (parts : List (List Char)) :
    separated (p :: q :: parts) = p ++ ',' :: ' ' :: separated (q :: parts) := by
  simp [separated, List.intercalate]

/-- No part is longer than the whole. -/
theorem length_le_separated {p : List Char} {parts : List (List Char)} (hp : p ∈ parts) :
    p.length ≤ (separated parts).length := by
  induction parts with
  | nil => cases hp
  | cons q parts ih =>
      cases parts with
      | nil => rw [List.mem_singleton.1 hp, separated_singleton]
      | cons r parts =>
          rw [separated_cons_cons, List.length_append, List.length_cons, List.length_cons]
          rcases List.mem_cons.1 hp with rfl | hp
          · omega
          · have hrest := ih hp
            omega

/-- There are no more parts than characters. -/
theorem length_le_length_separated {parts : List (List Char)} (hparts : ∀ p ∈ parts, p ≠ []) :
    parts.length ≤ (separated parts).length := by
  induction parts with
  | nil => exact Nat.zero_le _
  | cons p parts ih =>
      obtain ⟨hp, hrest⟩ := List.forall_mem_cons.1 hparts
      have hpos : 0 < p.length := List.length_pos_iff.2 hp
      cases parts with
      | nil =>
          rw [separated_singleton, List.length_singleton]
          exact hpos
      | cons q parts =>
          have hothers := ih hrest
          simp only [separated_cons_cons, List.length_append, List.length_cons] at hothers ⊢
          omega

/-- Nothing but the parts is shown, and the separators. -/
theorem isShown_of_mem_separated {parts : List (List Char)}
    (hparts : ∀ p ∈ parts, ∀ c ∈ p, IsShown c) : ∀ c ∈ separated parts, IsShown c := by
  have hmarks : IsShown ',' ∧ IsShown ' ' := by
    unfold IsShown
    decide
  induction parts with
  | nil => simp [separated, List.intercalate]
  | cons p parts ih =>
      obtain ⟨hp, hrest⟩ := List.forall_mem_cons.1 hparts
      cases parts with
      | nil =>
          rw [separated_singleton]
          exact hp
      | cons q parts =>
          rw [separated_cons_cons, List.forall_mem_append, List.forall_mem_cons,
            List.forall_mem_cons]
          exact ⟨hp, hmarks.1, hmarks.2, ih hrest⟩

/-- What is needed to read something that is written, among others of its kind. -/
structure ReadsBack (takeOne : List Char → Option (α × List Char)) (write : α → List Char)
    (closing : Char) (a : α) : Prop where
  begins : ∃ c rest, write a = c :: rest ∧ isBlank c = false ∧ c ≠ closing
  takeOne_eq : ∀ rest, EndsNumber rest → takeOne (write a ++ rest) = some (a, rest)

/-- A bracket that ends what stands in front of it. -/
structure IsClosing (closing : Char) : Prop where
  isBlank_eq : isBlank closing = false
  isNumberSign_eq : isNumberSign closing = false
  ne_comma : closing ≠ ','

/-- **What is written one after the other is read one after the other.** -/
theorem takeMany?_separated (hclosing : IsClosing closing)
    (hblank : ∀ rest, takeOne (' ' :: rest) = takeOne rest) {as : List α} (hne : as ≠ [])
    (has : ∀ a ∈ as, ReadsBack takeOne write closing a) {steps : Nat} (hsteps : as.length ≤ steps)
    (rest : List Char) :
    takeMany? takeOne closing steps (separated (as.map write) ++ closing :: rest)
      = some (as, rest) := by
  -- The blank behind a comma belongs to what comes next, which is read without it.
  have hmany : ∀ steps rest, takeMany? takeOne closing steps (' ' :: rest)
      = takeMany? takeOne closing steps rest := by
    intro steps rest
    cases steps with
    | zero => rfl
    | succ steps => rw [takeMany?, takeMany?, hblank]
  induction as generalizing steps with
  | nil => exact absurd rfl hne
  | cons a as ih =>
      obtain ⟨ha, has⟩ := List.forall_mem_cons.1 has
      obtain ⟨steps, rfl⟩ := Nat.exists_eq_succ_of_ne_zero (Nat.ne_zero_of_lt hsteps)
      cases as with
      | nil =>
          have hread := ha.takeOne_eq (closing :: rest)
            (endsNumber_cons rest hclosing.isNumberSign_eq)
          rw [List.map_singleton, separated_singleton, takeMany?, hread]
          dsimp only
          rw [skip_cons rest hclosing.isBlank_eq]
          exact if_pos rfl
      | cons b as =>
          -- A comma ends the first part, whatever it is, and the others are read by induction.
          have hrest := ih (List.cons_ne_nil b as) has (Nat.le_of_succ_le_succ hsteps)
          have hread := ha.takeOne_eq
            (',' :: ' ' :: (separated ((b :: as).map write) ++ closing :: rest))
            (endsNumber_cons _ (by decide))
          rw [List.map_cons, List.map_cons, separated_cons_cons, List.append_assoc,
            List.cons_append, List.cons_append, ← List.map_cons, takeMany?, hread]
          dsimp only
          rw [skip_cons _ (by decide)]
          dsimp only
          rw [if_neg hclosing.ne_comma.symm, if_pos rfl, hmany, hrest, Option.map_some]

/-- What is written begins as its first part does. -/
theorem exists_separated_eq_cons {a : α} (as : List α) (ha : ReadsBack takeOne write closing a)
    (rest : List Char) :
    ∃ c more, separated ((a :: as).map write) ++ rest = c :: more ∧ isBlank c = false ∧
      c ≠ closing := by
  obtain ⟨c, behind, hwrite, hc, hne⟩ := ha.begins
  cases as with
  | nil =>
      rw [List.map_singleton, separated_singleton, hwrite]
      exact ⟨c, _, rfl, hc, hne⟩
  | cons b as =>
      rw [List.map_cons, List.map_cons, separated_cons_cons, hwrite]
      exact ⟨c, _, rfl, hc, hne⟩

/-- Each part takes a step at most. -/
theorem length_le_length_separated_map {as : List α}
    (has : ∀ a ∈ as, ReadsBack takeOne write closing a) :
    as.length ≤ (separated (as.map write)).length := by
  have hparts : ∀ p ∈ as.map write, p ≠ [] := by
    rw [List.forall_mem_map]
    intro a ha
    obtain ⟨c, behind, hcons, -⟩ := (has a ha).begins
    rw [hcons]
    exact List.cons_ne_nil c behind
  have hcount := length_le_length_separated hparts
  rwa [List.length_map] at hcount

/-- **What is written between brackets is read back.** -/
theorem takeEnclosed?_separated (hclosing : IsClosing closing)
    (hblank : ∀ rest, takeOne (' ' :: rest) = takeOne rest) {as : List α}
    (has : ∀ a ∈ as, ReadsBack takeOne write closing a) (rest : List Char) :
    takeEnclosed? takeOne closing (separated (as.map write) ++ closing :: rest)
      = some (as, rest) := by
  by_cases hnil : as = []
  · rw [hnil, List.map_nil]
    change takeEnclosed? takeOne closing (closing :: rest) = some ([], rest)
    rw [takeEnclosed?, skip_cons rest hclosing.isBlank_eq]
    exact if_pos rfl
  · obtain ⟨a, others, rfl⟩ := List.exists_cons_of_ne_nil hnil
    obtain ⟨c, more, htext, hc, hne⟩ :=
      exists_separated_eq_cons others (has a List.mem_cons_self) (closing :: rest)
    have hlength : (a :: others).length
        ≤ (separated ((a :: others).map write) ++ closing :: rest).length := by
      have hparts := length_le_length_separated_map has
      rw [List.length_append]
      omega
    have hread := takeMany?_separated hclosing hblank hnil has hlength rest
    rw [htext] at hread ⊢
    rw [takeEnclosed?, skip_cons more hc]
    dsimp only
    rw [if_neg hne, hread]

end Enclosed

/-! ## Lists and records -/

theorem ofItems_eq_map (items : List Datum) :
    ofItems charset items = items.map (ofDatum charset) := by
  induction items with
  | nil => rfl
  | cons d items ih => rw [ofItems, ih, List.map_cons]

/-- An entry as it is written. -/
def ofEntry (charset : Charset) (entry : String × Datum) : List Char :=
  ofText charset entry.1 ++ ':' :: ' ' :: ofDatum charset entry.2

theorem ofEntries_eq_map (entries : List (String × Datum)) :
    ofEntries charset entries = entries.map (ofEntry charset) := by
  induction entries with
  | nil => rfl
  | cons entry entries ih => rw [ofEntries, ih, List.map_cons, ofEntry]

/-- What is written between two brackets shows them and what stands between them. -/
theorem isShown_of_mem_enclosed {opening closing : Char} {parts : List (List Char)}
    (hmarks : IsShown opening ∧ IsShown closing) (hparts : ∀ p ∈ parts, ∀ c ∈ p, IsShown c) :
    ∀ c ∈ opening :: (separated parts ++ [closing]), IsShown c := by
  rw [List.forall_mem_cons, List.forall_mem_append, List.forall_mem_singleton]
  exact ⟨hmarks.1, isShown_of_mem_separated hparts, hmarks.2⟩

theorem ofDatum_list (items : List Datum) : ofDatum charset (.list items)
    = '[' :: (separated (items.map (ofDatum charset)) ++ [']']) := by
  rw [ofDatum, ofItems_eq_map, Datum.enclose, List.cons_append, separated]

theorem ofDatum_record (entries : List (String × Datum)) : ofDatum charset (.record entries)
    = '\x7b' :: (separated (entries.map (ofEntry charset)) ++ ['\x7d']) := by
  rw [ofDatum, ofEntries_eq_map, Datum.enclose, List.cons_append, separated]

theorem isShown_of_mem_list {items : List Datum}
    (hitems : ∀ d ∈ items, ∀ c ∈ ofDatum charset d, IsShown c) :
    ∀ c ∈ ofDatum charset (.list items), IsShown c := by
  rw [ofDatum_list]
  exact isShown_of_mem_enclosed (by unfold IsShown; decide) (List.forall_mem_map.2 hitems)

theorem isShown_of_mem_record {entries : List (String × Datum)}
    (hentries : ∀ entry ∈ entries, ∀ c ∈ ofDatum charset entry.2, IsShown c) :
    ∀ c ∈ ofDatum charset (.record entries), IsShown c := by
  rw [ofDatum_record]
  refine isShown_of_mem_enclosed (by unfold IsShown; decide) ?_
  rw [List.forall_mem_map]
  intro entry hentry
  have hmarks : IsShown ':' ∧ IsShown ' ' := by
    unfold IsShown
    decide
  rw [ofEntry, List.forall_mem_append, List.forall_mem_cons, List.forall_mem_cons]
  exact ⟨isShown_of_mem_ofText, hmarks.1, hmarks.2, hentries entry hentry⟩

/-- **Lists are written so that they can be read** if their items are. -/
theorem isWritten_list {items : List Datum} (hitems : ∀ d ∈ items, IsWritten charset d) :
    IsWritten charset (.list items) := by
  have hdatum : ofDatum charset (.list items) = _ := ofDatum_list items
  refine ⟨⟨'[', _, hdatum, rfl, by decide⟩, ?_, ?_⟩
  · exact isShown_of_mem_list fun d hd => (hitems d hd).isShown
  · intro steps rest hsteps _
    rw [hdatum, List.length_cons] at hsteps
    obtain ⟨steps, rfl⟩ := Nat.exists_eq_succ_of_ne_zero (Nat.ne_zero_of_lt hsteps)
    rw [List.length_append] at hsteps
    have hread : ∀ d ∈ items, ReadsBack (takeValue? steps) (ofDatum charset) ']' d := by
      intro d hd
      have hlength := length_le_separated (List.mem_map_of_mem (f := ofDatum charset) hd)
      exact ⟨(hitems d hd).begins, fun rest hrest =>
        (hitems d hd).takeValue?_eq steps rest (by omega) hrest⟩
    rw [hdatum, List.cons_append, List.append_assoc, List.singleton_append, takeValue?_list,
      takeEnclosed?_separated ⟨rfl, rfl, by decide⟩ (takeValue?_blank steps) hread, Option.map_some]

/-- Behind the key of an entry stands its value. -/
theorem takeMember?_of_key {takeOne : List Char → Option (Datum × List Char)}
    {key s rest : List Char} (hkey : takeText? s.length s = some (key, ':' :: ' ' :: rest)) :
    takeMember? takeOne ('"' :: s)
      = (takeOne (' ' :: rest)).map fun taken => ((String.ofList key, taken.1), taken.2) := by
  rw [takeMember?, skip_cons s (by decide)]
  split
  · next behind h =>
      obtain rfl : s = behind := (List.cons.inj h).2
      rw [hkey]
      rfl
  · next hquote => exact absurd rfl (hquote s)

/-- An entry is read back if its value is. -/
theorem readsBack_entry {entry : String × Datum} {steps : Nat} (hvalue : IsWritten charset entry.2)
    (hsteps : (ofEntry charset entry).length ≤ steps) :
    ReadsBack (takeMember? (takeValue? steps)) (ofEntry charset) '\x7d' entry := by
  obtain ⟨behind, htext, hkey⟩ := exists_ofText charset entry.1
  have hentry : ofEntry charset entry
      = '"' :: (behind ++ ':' :: ' ' :: ofDatum charset entry.2) := by
    rw [ofEntry, htext, List.cons_append]
  refine ⟨⟨'"', _, hentry, rfl, by decide⟩, ?_⟩
  intro rest hrest
  have hlength : (ofDatum charset entry.2).length ≤ steps := by
    rw [ofEntry, List.length_append, List.length_cons, List.length_cons] at hsteps
    omega
  have hread := hvalue.takeValue?_eq steps rest hlength hrest
  rw [hentry, List.cons_append, List.append_assoc, List.cons_append, List.cons_append,
    takeMember?_of_key (hkey _), takeValue?_blank, hread, Option.map_some]
  dsimp only
  rw [String.ofList_toList]

/-- **Records are written so that they can be read** if their values are. -/
theorem isWritten_record {entries : List (String × Datum)}
    (hentries : ∀ entry ∈ entries, IsWritten charset entry.2) :
    IsWritten charset (.record entries) := by
  have hdatum : ofDatum charset (.record entries) = _ := ofDatum_record entries
  refine ⟨⟨'\x7b', _, hdatum, rfl, by decide⟩, ?_, ?_⟩
  · exact isShown_of_mem_record fun entry hentry => (hentries entry hentry).isShown
  · intro steps rest hsteps _
    rw [hdatum, List.length_cons] at hsteps
    obtain ⟨steps, rfl⟩ := Nat.exists_eq_succ_of_ne_zero (Nat.ne_zero_of_lt hsteps)
    rw [List.length_append] at hsteps
    have hread : ∀ entry ∈ entries,
        ReadsBack (takeMember? (takeValue? steps)) (ofEntry charset) '\x7d' entry := by
      intro entry hentry
      have hlength := length_le_separated (List.mem_map_of_mem (f := ofEntry charset) hentry)
      exact readsBack_entry (hentries entry hentry) (by omega)
    rw [hdatum, List.cons_append, List.append_assoc, List.singleton_append, takeValue?_record,
      takeEnclosed?_separated ⟨rfl, rfl, by decide⟩ (takeMember?_blank _) hread, Option.map_some]

/-! ## Whole texts -/

/-- **Finite data are written so that they can be read.** -/
theorem isWritten_of_isFinite {d : Datum} (hd : d.IsFinite) : IsWritten charset d := by
  induction hd with
  | scalar hv => exact isWritten_scalar hv
  | list _ ih => exact isWritten_list ih
  | record _ ih => exact isWritten_record ih

/-- **JSON texts denote the data they were written for.** -/
theorem read?_toJson {d : Datum} (hd : d.IsFinite) : read? (d.toJson charset) = some d := by
  have hwritten : IsWritten charset d := isWritten_of_isFinite hd
  have hread := hwritten.takeValue?_eq _ [] (Nat.le_refl _) endsNumber_nil
  rw [List.append_nil] at hread
  rw [read?, Datum.toJson, String.toList_ofList, hread]
  exact if_pos rfl

theorem isShown_of_mem_ofScalar (v : Scalar) : ∀ c ∈ ofScalar charset v, IsShown c := by
  by_cases hv : v.IsFinite
  · have hwritten : IsWritten charset (.scalar v) := isWritten_scalar hv
    exact hwritten.isShown
  · have hnames : ∀ name ∈ ["Infinity", "-Infinity", "NaN"], ∀ c ∈ name.toList, IsShown c := by
      simp [IsShown]
    cases v with
    | float x =>
        cases x with
        | finite negative p => exact absurd rfl hv
        | infinite negative =>
            cases negative with
            | true => exact hnames "-Infinity" (by decide)
            | false => exact hnames "Infinity" (by decide)
        | nan payload => exact hnames "NaN" (by decide)
    | _ => exact absurd trivial hv

/-- **JSON texts have no control characters**, so no line ends either. This is so of all data, since
the names of the numbers that are not finite have none. -/
theorem isShown_of_mem_ofDatum : ∀ (d : Datum), ∀ c ∈ ofDatum charset d, IsShown c
  | .scalar v => isShown_of_mem_ofScalar v
  | .list items => isShown_of_mem_list fun d _ => isShown_of_mem_ofDatum d
  | .record entries => isShown_of_mem_record fun entry _ => isShown_of_mem_ofDatum entry.2
decreasing_by
  · have hitem := List.sizeOf_lt_of_mem ‹_ ∈ items›
    simp only [Datum.list.sizeOf_spec]
    omega
  · have hentry := List.sizeOf_lt_of_mem ‹_ ∈ entries›
    have hvalue : sizeOf entry.2 < sizeOf entry := by
      cases entry
      simp only [Prod.mk.sizeOf_spec]
      omega
    simp only [Datum.record.sizeOf_spec]
    omega

theorem isShown_of_mem_toJson {d : Datum} : ∀ c ∈ (d.toJson charset).toList, IsShown c := by
  rw [Datum.toJson, String.toList_ofList]
  exact isShown_of_mem_ofDatum d

/-- Two texts that differ in what is escaped denote the same. -/
example : read? (Datum.toJson (.record [("é\n", .list [.scalar (.int (-7)), .text "😀"])]) .ascii)
    = read? "\x7b \"é\\n\" : [-7, \"😀\"]\x7d" := by
  decide +kernel

end Json

end FilterQuery
