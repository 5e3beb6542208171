/-
What is narrow is not deep.

There are two hindrances to writing data: an integer may have too many digits, and lists and records
may be nested too deeply. Neither is met where the text is to fit on a line. Each list and each record
begins with a bracket, and an integer is made of digits, and all of these take cells
(`covers_ofDatum`).

Other characters may take none, or take one away from the next. But what follows a blank is counted
by itself, and in JSON there is a blank before everything that is not the first of its kind.
-/
import FilterQuery.Console
import FilterQuery.Datum.Json.Writer
import FilterQuery.Proofs.Digits
import FilterQuery.Proofs.JsonReading

set_option autoImplicit false

namespace FilterQuery.Console.Printer

open Json Text

variable {Fault : Type} {printer : Printer Fault}

/-! ## Cells -/

theorem CountsCells.width_le_append (hprinter : printer.CountsCells) (front text : List Char) :
    printer.width text ≤ printer.width (front ++ ' ' :: text) :=
  Nat.le_trans (Nat.le_add_left _ _) (hprinter.width_blank front text)

theorem CountsCells.length_add_width_le (hprinter : printer.CountsCells) {s : List Char}
    (hs : ∀ c ∈ s, IsVisible c) (text : List Char) :
    s.length + printer.width text ≤ printer.width (s ++ text) := by
  induction s with
  | nil => simp
  | cons c s ih =>
      obtain ⟨hc, hrest⟩ := List.forall_mem_cons.1 hs
      have hfirst := hprinter.width_visible c (s ++ text) hc
      have hothers := ih hrest
      rw [List.cons_append, List.length_cons]
      omega

/-- A guide takes its cells from the line behind it. -/
theorem CountsCells.width_add_four_le (hprinter : printer.CountsCells) {guide : String}
    (hguide : guide ∈ ["├── ", "│   ", "└── ", "    "]) (line : List Char) :
    printer.width line + 4 ≤ printer.width (guide.toList ++ line) := by
  have hblank : guide.toList = guide.toList.take 3 ++ [' '] := by
    have hall : ∀ g ∈ ["├── ", "│   ", "└── ", "    "], g.toList = g.toList.take 3 ++ [' '] := by
      decide
    exact hall guide hguide
  have hcells := hprinter.width_blank (guide.toList.take 3) line
  rw [← hblank, hprinter.width_guide guide hguide, List.append_cons, ← hblank] at hcells
  rwa [Nat.add_comm]

theorem CountsCells.width_add_four_le_of_mem_hang (hprinter : printer.CountsCells)
    {first further : String} (hfirst : first ∈ ["├── ", "│   ", "└── ", "    "])
    (hfurther : further ∈ ["├── ", "│   ", "└── ", "    "]) {limit : Nat}
    {lines : List (List Char)}
    (hfits : ∀ line ∈ hang first further lines, printer.width line ≤ limit) :
    ∀ line ∈ lines, printer.width line + 4 ≤ limit := by
  cases lines with
  | nil => simp
  | cons line lines =>
      rw [hang, List.forall_mem_cons, List.forall_mem_map] at hfits
      rw [List.forall_mem_cons]
      exact ⟨Nat.le_trans (hprinter.width_add_four_le hfirst line) hfits.1, fun line hline =>
        Nat.le_trans (hprinter.width_add_four_le hfurther line) (hfits.2 line hline)⟩

/-! ## Data -/

/-- So many cells are enough for something that is nested so, and that can be written or not. -/
structure Covers (cells nesting : Nat) (isWritable : Bool) : Prop where
  nesting_le : nesting ≤ cells
  digits_lt : isWritable = false → Numeral.integerDigitLimit < cells

theorem Covers.mono {cells cells' nesting : Nat} {isWritable : Bool}
    (h : Covers cells nesting isWritable) (hle : cells ≤ cells') :
    Covers cells' nesting isWritable :=
  ⟨Nat.le_trans h.nesting_le hle, fun hnot => Nat.lt_of_lt_of_le (h.digits_lt hnot) hle⟩

theorem Covers.max {cells m n : Nat} {a b : Bool} (hm : Covers cells m a) (hn : Covers cells n b) :
    Covers cells (max m n) (a && b) where
  nesting_le := Nat.max_le.2 ⟨hm.nesting_le, hn.nesting_le⟩
  digits_lt := by
    rw [Bool.and_eq_false_iff]
    rintro (ha | hb)
    · exact hm.digits_lt ha
    · exact hn.digits_lt hb

/-- A list or a record takes one bracket more than what it holds. -/
theorem Covers.succ {cells cells' nesting : Nat} {isWritable : Bool}
    (h : Covers cells nesting isWritable) (hle : 1 + cells ≤ cells') :
    Covers cells' (nesting + 1) isWritable := by
  have hnesting := h.nesting_le
  refine ⟨by omega, fun hnot => ?_⟩
  have hdigits := h.digits_lt hnot
  omega

theorem covers_nothing (cells : Nat) : Covers cells 0 true := ⟨Nat.zero_le _, nofun⟩

/-- Of parts with commas between them the first one is covered whatever follows, and the others stand
behind a blank. -/
theorem Covers.separated (hprinter : printer.CountsCells) {p text : List Char}
    {parts : List (List Char)} {m n : Nat} {a b : Bool}
    (hfirst : ∀ behind, Covers (printer.width (p ++ behind)) m a)
    (hothers : Covers (printer.width (separated parts ++ text)) n b)
    (hnone : parts = [] → n = 0 ∧ b = true) :
    Covers (printer.width (separated (p :: parts) ++ text)) (Max.max m n) (a && b) := by
  cases parts with
  | nil =>
      obtain ⟨rfl, rfl⟩ := hnone rfl
      rw [separated_singleton]
      exact (hfirst text).max (covers_nothing _)
  | cons q parts =>
      rw [separated_cons_cons, List.append_assoc]
      refine (hfirst _).max (hothers.mono ?_)
      rw [List.cons_append, List.cons_append, List.append_cons]
      exact hprinter.width_le_append _ _

theorem isVisible_of_isDigit {c : Char} (hc : c.isDigit = true) : IsVisible c := by
  obtain ⟨hlow, hhigh⟩ := Char.isDigit_iff_toNat.1 hc
  constructor
  · exact Nat.le_trans (by decide) hlow
  · exact Nat.le_trans hhigh (by decide)

theorem covers_ofScalar (hprinter : printer.CountsCells) (charset : Charset) (value : Scalar)
    (text : List Char) :
    Covers (printer.width (ofScalar charset value ++ text)) 0 value.isWritable := by
  cases value with
  | int n =>
      refine ⟨Nat.zero_le _, fun hnot => ?_⟩
      rw [Scalar.isWritable, decide_eq_false_iff_not, Nat.not_le] at hnot
      have hdigits : ∀ c ∈ Nat.toDigits 10 n.natAbs, IsVisible c :=
        fun c hc => isVisible_of_isDigit (isDigit_of_mem_toDigits c hc)
      have hcells := hprinter.length_add_width_le hdigits text
      rw [ofScalar, Int.toString_eq_repr, Int.repr_eq_if]
      by_cases hn : 0 ≤ n
      · rw [if_pos hn, Nat.toList_repr, show n.toNat = n.natAbs by omega]
        omega
      · -- The sign takes a cell besides.
        have hsign := hprinter.width_visible '-' (Nat.toDigits 10 n.natAbs ++ text)
          (by decide)
        have htext : "-".toList = ['-'] := rfl
        rw [if_neg hn, String.toList_append, Nat.toList_repr, show (-n).toNat = n.natAbs by omega,
          htext, List.singleton_append, List.cons_append]
        omega
  | _ => exact covers_nothing _

mutual

/-- **The text of a datum covers it**, whatever follows. -/
theorem covers_ofDatum (hprinter : printer.CountsCells) (charset : Charset) :
    (d : Datum) → ∀ text,
      Covers (printer.width (ofDatum charset d ++ text)) d.nesting d.isWritable
  | .scalar value, text => by
      rw [Datum.nesting, Datum.isWritable]
      exact covers_ofScalar hprinter charset value text
  | .list items, text => by
      rw [Datum.nesting, Datum.isWritable, ofDatum, Datum.enclose, List.cons_append,
        List.cons_append, List.append_assoc]
      exact (covers_ofItems hprinter charset items _).succ
        (hprinter.width_visible '[' _ (by decide))
  | .record entries, text => by
      rw [Datum.nesting, Datum.isWritable, ofDatum, Datum.enclose, List.cons_append,
        List.cons_append, List.append_assoc]
      exact (covers_ofEntries hprinter charset entries _).succ
        (hprinter.width_visible '\x7b' _ (by decide))

theorem covers_ofItems (hprinter : printer.CountsCells) (charset : Charset) :
    (items : List Datum) → ∀ text,
      Covers (printer.width (separated (ofItems charset items) ++ text))
        (Datum.nestingOfItems items) (Datum.areWritable items)
  | [], text => covers_nothing _
  | item :: rest, text => by
      rw [ofItems, Datum.nestingOfItems, Datum.areWritable]
      refine .separated hprinter (covers_ofDatum hprinter charset item)
        (covers_ofItems hprinter charset rest text) fun hnone => ?_
      cases rest with
      | nil => exact ⟨rfl, rfl⟩
      | cons next rest => cases hnone

theorem covers_ofEntries (hprinter : printer.CountsCells) (charset : Charset) :
    (entries : List (String × Datum)) → ∀ text,
      Covers (printer.width (separated (ofEntries charset entries) ++ text))
        (Datum.nestingOfEntries entries) (Datum.entriesAreWritable entries)
  | [], text => covers_nothing _
  | (key, value) :: rest, text => by
      rw [ofEntries, Datum.nestingOfEntries, Datum.entriesAreWritable]
      refine .separated hprinter (fun behind => ?_) (covers_ofEntries hprinter charset rest text)
        fun hnone => ?_
      · -- A value stands behind a blank too.
        refine (covers_ofDatum hprinter charset value behind).mono ?_
        rw [List.append_assoc, List.cons_append, List.cons_append, List.append_cons]
        exact hprinter.width_le_append _ _
      · cases rest with
        | nil => exact ⟨rfl, rfl⟩
        | cons next rest => cases hnone

end

end FilterQuery.Console.Printer
