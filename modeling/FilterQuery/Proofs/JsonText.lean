/-
Texts written as JSON are read back.

A text is written character by character, and a reader finds in it one character after the other.
So the work is in one character. Seven have a short escape, which a table settles. A character that
is shown is none of these seven, and that is why a reader takes it as it is. The others are written
by their UTF-16 units: one unit is read back because it is not taken for half of a pair, two because
they are (`takeEscape?_escapeNumber`).

No control character is shown, in either character set, so a text that is written has no line ends
in it.
-/
import FilterQuery.Datum.Json.Reader
import Mathlib.Data.List.Basic

set_option autoImplicit false

namespace FilterQuery

open FilterQuery.Text

namespace Json

variable {charset : Charset}

/-! ## Escapes -/

theorem hexValue?_hexDigit (n : Nat) : hexValue? (hexDigit n) = some (n % 16) := by
  have hdigits : ∀ m < 16, hexValue? (Nat.digitChar m) = some m := by decide
  exact hdigits (n % 16) (Nat.mod_lt n (by decide))

/-- A unit is read back. -/
theorem takeUnit?_hexDigits {n : Nat} (hn : n < 0x10000) (rest : List Char) :
    takeUnit? (hexDigits 4 n ++ rest) = some (n, rest) := by
  have hvalue : 16 * (16 * (16 * (n / 16 / 16 / 16 % 16) + n / 16 / 16 % 16) + n / 16 % 16) + n % 16
      = n := by omega
  simp only [hexDigits, List.nil_append, List.cons_append, takeUnit?, hexValue?_hexDigit,
    Option.bind_eq_bind, Option.bind_some, hvalue, Option.pure_def]

/-- A character is a code point outside the range of pairs. -/
theorem toNat_bounds (c : Char) :
    c.toNat < 0xd800 ∨ 0xdfff < c.toNat ∧ c.toNat < 0x110000 := c.valid

/-- A unit that is no half of a pair is a character by itself. -/
theorem takeUnits?_one {n : Nat} (hn : n < 0x10000) (hhigh : isHigh n = false)
    (hlow : isLow n = false) (rest : List Char) :
    takeUnits? (hexDigits 4 n ++ rest) = some (Char.ofNat n, rest) := by
  rw [takeUnits?, takeUnit?_hexDigits hn]
  dsimp only
  rw [hhigh, hlow, if_neg Bool.false_ne_true, if_neg Bool.false_ne_true]

/-- Two halves make a character. -/
theorem takeUnits?_two {high low : Nat} (hhigh : isHigh high = true) (hlow : isLow low = true)
    (rest : List Char) :
    takeUnits? (hexDigits 4 high ++ '\\' :: 'u' :: (hexDigits 4 low ++ rest))
      = some (ofPair high low, rest) := by
  have hhigh16 : high < 0x10000 := by
    simp only [isHigh, Bool.and_eq_true, decide_eq_true_eq] at hhigh
    omega
  have hlow16 : low < 0x10000 := by
    simp only [isLow, Bool.and_eq_true, decide_eq_true_eq] at hlow
    omega
  rw [takeUnits?, takeUnit?_hexDigits hhigh16]
  dsimp only
  rw [hhigh, if_pos rfl]
  simp only [takeUnit?_hexDigits hlow16]
  rw [hlow, if_pos rfl]

/-- **A character written by its units is read back**, with one unit or with two. -/
theorem takeEscape?_escapeNumber (c : Char) :
    ∃ escaped, escapeNumber c = '\\' :: escaped ∧
      ∀ rest, takeEscape? (escaped ++ rest) = some (c, rest) := by
  have hbounds := toNat_bounds c
  unfold escapeNumber
  dsimp only
  split
  · next hone =>
      refine ⟨'u' :: hexDigits 4 c.toNat, rfl, fun rest => ?_⟩
      have hhigh : isHigh c.toNat = false := by
        simp only [isHigh, Bool.and_eq_false_iff, decide_eq_false_iff_not]
        omega
      have hlow : isLow c.toNat = false := by
        simp only [isLow, Bool.and_eq_false_iff, decide_eq_false_iff_not]
        omega
      rw [List.cons_append, takeEscape?, takeUnits?_one hone hhigh hlow, Char.ofNat_toNat]
  · next htwo =>
      -- the two units, and what is known of them
      obtain ⟨high, hhighEq⟩ : ∃ high, 0xd800 + (c.toNat - 0x10000) / 0x400 = high := ⟨_, rfl⟩
      obtain ⟨low, hlowEq⟩ : ∃ low, 0xdc00 + (c.toNat - 0x10000) % 0x400 = low := ⟨_, rfl⟩
      rw [hhighEq, hlowEq]
      have hhigh : isHigh high = true := by
        simp only [isHigh, Bool.and_eq_true, decide_eq_true_eq]
        omega
      have hlow : isLow low = true := by
        simp only [isLow, Bool.and_eq_true, decide_eq_true_eq]
        omega
      have hpair : ofPair high low = c := by
        have hvalue : 0x10000 + (high - 0xd800) * 0x400 + (low - 0xdc00) = c.toNat := by omega
        rw [ofPair, hvalue, Char.ofNat_toNat]
      refine ⟨'u' :: (hexDigits 4 high ++ '\\' :: 'u' :: hexDigits 4 low), rfl, fun rest => ?_⟩
      rw [List.cons_append, List.append_assoc, List.cons_append, List.cons_append, takeEscape?,
        takeUnits?_two hhigh hlow, hpair]

/-- The characters that have a short escape, and the letter that stands for each behind the
backslash. -/
def letters : List (Char × Char) :=
  [('"', '"'), ('\\', '\\'), ('\n', 'n'), ('\r', 'r'), ('\t', 't'), ('\x08', 'b'), ('\x0c', 'f')]

theorem mem_letters_of_lookup {c letter : Char} (h : letters.lookup c = some letter) :
    (c, letter) ∈ letters := by
  obtain ⟨before, after, hletters, -⟩ := List.lookup_eq_some_iff.1 h
  rw [hletters]
  exact List.mem_append_right before List.mem_cons_self

theorem escape_of_lookup {c letter : Char} (h : letters.lookup c = some letter) :
    escape charset c = ['\\', letter] := by
  have hall : ∀ entry ∈ letters, escape charset entry.1 = ['\\', entry.2] := by
    cases charset <;> decide
  exact hall (c, letter) (mem_letters_of_lookup h)

theorem ne_of_lookup_eq_none {c : Char} (h : letters.lookup c = none) :
    ∀ entry ∈ letters, c ≠ entry.1 := by
  intro entry hentry hc
  have hne := List.lookup_eq_none_iff.1 h entry hentry
  rw [hc, bne_self_eq_false] at hne
  exact Bool.false_ne_true hne

theorem escape_of_lookup_eq_none {c : Char} (h : letters.lookup c = none) :
    escape charset c = if isShown charset c then [c] else escapeNumber c := by
  have hall := ne_of_lookup_eq_none h
  simp only [letters, List.forall_mem_cons] at hall
  obtain ⟨hquote, hslash, hline, hreturn, htab, hback, hfeed, -⟩ := hall
  simp [escape, hquote, hslash, hline, hreturn, htab, hback, hfeed]

/-- Whatever the character set, control characters are not shown. -/
theorem le_toNat_of_isShown {c : Char} (h : isShown charset c = true) : 0x20 ≤ c.toNat := by
  cases charset with
  | ascii =>
      rw [isShown, Bool.and_eq_true, decide_eq_true_eq] at h
      exact h.1
  | all => exact of_decide_eq_true h

/-- A character is written as itself, and then needs no escape, or escaped. -/
theorem escape_cases (charset : Charset) (c : Char) :
    (escape charset c = [c] ∧ c ≠ '"' ∧ c ≠ '\\' ∧ 0x20 ≤ c.toNat) ∨
      ∃ escaped, escape charset c = '\\' :: escaped ∧
        ∀ rest, takeEscape? (escaped ++ rest) = some (c, rest) := by
  cases hletter : letters.lookup c with
  | some letter =>
      have hread : ∀ entry ∈ letters, ∀ rest,
          takeEscape? (entry.2 :: rest) = some (entry.1, rest) := by
        simp only [letters, List.forall_mem_cons]
        exact ⟨fun _ => rfl, fun _ => rfl, fun _ => rfl, fun _ => rfl, fun _ => rfl, fun _ => rfl,
          fun _ => rfl, by simp⟩
      exact Or.inr ⟨[letter], escape_of_lookup hletter,
        hread (c, letter) (mem_letters_of_lookup hletter)⟩
  | none =>
      rw [escape_of_lookup_eq_none hletter]
      by_cases hshown : isShown charset c = true
      · have hne := ne_of_lookup_eq_none hletter
        rw [if_pos hshown]
        exact Or.inl ⟨rfl, hne _ (by decide : ('"', '"') ∈ letters),
          hne _ (by decide : ('\\', '\\') ∈ letters), le_toNat_of_isShown hshown⟩
      · rw [if_neg hshown]
        exact Or.inr (takeEscape?_escapeNumber c)

/-! ## Texts -/

/-- **A character is read back**, and then what follows it. -/
theorem takeText?_escape (c : Char) (steps : Nat) (rest : List Char) :
    takeText? (steps + 1) (escape charset c ++ rest)
      = (takeText? steps rest).map fun (cs, rest) => (c :: cs, rest) := by
  rcases escape_cases charset c with ⟨hself, hquote, hslash, hshown⟩ | ⟨escaped, hescape, hread⟩
  · rw [hself, List.singleton_append, takeText?, if_neg hquote, if_neg hslash,
      if_neg (Nat.not_lt.2 hshown)]
    cases takeText? steps rest <;> rfl
  · rw [hescape, List.cons_append, takeText?, if_neg (by decide), if_pos rfl, hread,
      Option.bind_eq_bind, Option.bind_some]
    dsimp only
    cases takeText? steps rest <;> rfl

theorem escape_ne_nil (c : Char) : escape charset c ≠ [] := by
  rcases escape_cases charset c with ⟨hself, -⟩ | ⟨escaped, hescape, -⟩
  · rw [hself]
    exact List.cons_ne_nil _ _
  · rw [hescape]
    exact List.cons_ne_nil _ _

/-- Escaping makes no text shorter. -/
theorem length_le_length_flatMap_escape (cs : List Char) :
    cs.length ≤ (cs.flatMap (escape charset)).length := by
  induction cs with
  | nil => exact Nat.le_refl 0
  | cons c cs ih =>
      have hc : 0 < (escape charset c).length := List.length_pos_iff.2 (escape_ne_nil c)
      rw [List.flatMap_cons, List.length_append, List.length_cons]
      omega

theorem takeText?_flatMap_escape {cs : List Char} {steps : Nat} (hsteps : cs.length < steps)
    (rest : List Char) :
    takeText? steps (cs.flatMap (escape charset) ++ '"' :: rest) = some (cs, rest) := by
  induction cs generalizing steps with
  | nil =>
      obtain ⟨steps, rfl⟩ := Nat.exists_eq_succ_of_ne_zero (Nat.ne_of_gt hsteps)
      rfl
  | cons c cs ih =>
      obtain ⟨steps, rfl⟩ := Nat.exists_eq_succ_of_ne_zero (Nat.ne_zero_of_lt hsteps)
      have hrest : cs.length < steps := Nat.lt_of_succ_lt_succ hsteps
      rw [List.flatMap_cons, List.append_assoc, takeText?_escape, ih hrest, Option.map_some]

/-- **A text is read back** up to its closing quote. -/
theorem exists_ofText (charset : Charset) (s : String) :
    ∃ behind, ofText charset s = '"' :: behind ∧
      ∀ rest, takeText? (behind ++ rest).length (behind ++ rest) = some (s.toList, rest) := by
  refine ⟨s.toList.flatMap (escape charset) ++ ['"'], rfl, fun rest => ?_⟩
  have hsteps : s.toList.length
      < (s.toList.flatMap (escape charset) ++ ['"'] ++ rest).length := by
    have hlength : s.toList.length ≤ (s.toList.flatMap (escape charset)).length :=
      length_le_length_flatMap_escape s.toList
    rw [List.length_append, List.length_append, List.length_singleton]
    omega
  rw [List.append_assoc, List.singleton_append] at hsteps ⊢
  exact takeText?_flatMap_escape hsteps rest

/-- What is no control character. -/
def IsShown (c : Char) : Prop := 0x20 ≤ c.toNat

theorem isShown_hexDigit (n : Nat) : IsShown (hexDigit n) := by
  have hdigits : ∀ m < 16, 0x20 ≤ (Nat.digitChar m).toNat := by decide
  exact hdigits (n % 16) (Nat.mod_lt n (by decide))

theorem isShown_of_mem_hexDigits {width n : Nat} :
    ∀ c ∈ hexDigits width n, IsShown c := by
  induction width generalizing n with
  | zero => simp [hexDigits]
  | succ width ih =>
      rw [hexDigits, List.forall_mem_append, List.forall_mem_singleton]
      exact ⟨ih, isShown_hexDigit n⟩

theorem isShown_of_mem_escapeUnit {n : Nat} : ∀ c ∈ escapeUnit n, IsShown c := by
  have hmarks : IsShown '\\' ∧ IsShown 'u' := by
    unfold IsShown
    decide
  rw [escapeUnit, List.forall_mem_cons, List.forall_mem_cons]
  exact ⟨hmarks.1, hmarks.2, isShown_of_mem_hexDigits⟩

/-- Control characters are escaped. -/
theorem isShown_of_mem_escape {c : Char} : ∀ d ∈ escape charset c, IsShown d := by
  cases hletter : letters.lookup c with
  | some letter =>
      have hletters : IsShown '\\' ∧ ∀ entry ∈ letters, IsShown entry.2 := by
        unfold IsShown
        decide
      rw [escape_of_lookup hletter, List.forall_mem_cons, List.forall_mem_singleton]
      exact ⟨hletters.1, hletters.2 (c, letter) (mem_letters_of_lookup hletter)⟩
  | none =>
      rw [escape_of_lookup_eq_none hletter]
      by_cases hshown : isShown charset c = true
      · rw [if_pos hshown, List.forall_mem_singleton]
        exact le_toNat_of_isShown hshown
      · rw [if_neg hshown]
        unfold escapeNumber
        dsimp only
        split
        · exact isShown_of_mem_escapeUnit
        · exact List.forall_mem_append.2 ⟨isShown_of_mem_escapeUnit, isShown_of_mem_escapeUnit⟩

theorem isShown_of_mem_ofText {s : String} : ∀ c ∈ ofText charset s, IsShown c := by
  have hquote : IsShown '"' := by
    unfold IsShown
    decide
  rw [ofText, List.cons_append, List.forall_mem_cons, List.forall_mem_append,
    List.forall_mem_singleton]
  refine ⟨hquote, ?_, hquote⟩
  intro c hc
  obtain ⟨d, -, hd⟩ := List.mem_flatMap.1 hc
  exact isShown_of_mem_escape c hd

end Json

end FilterQuery
