/-
Trimming, lower-casing, and the characters that both leave alone.

A value is null when its trimmed lower case is the lower case of the word for null. To write null is
to write that word, so the word itself has to be read as null. It is, if anything is: whatever is
read as null lends the word its ends, because lower-casing maps blanks to themselves and nothing
else to a blank, so a word with a blank at an end is the lower case of no trimmed text
(`trim_eq_of_lower_eq`).

The other question is whether a written number can be taken for the word. Its characters have a
lower case of their own, and the only other character with one of those is the capital `E`
(`map_foldMark_of_lower_eq`). So a word that passes for a written number is a number up to the case
of its exponent mark.

Both are facts about the table of lower cases. They are checked run by run, as facts about the two
ends of a run.
-/
import FilterQuery.Proofs.Spelling
import FilterQuery.Text.LowerCase

set_option autoImplicit false

namespace FilterQuery.Text

/-! ## The ends of a trimmed text -/

theorem head?_dropWhile_isBlank (s : List Char) :
    ∀ c ∈ (s.dropWhile isBlank).head?, isBlank c = false := by
  intro c hc
  have h := List.head?_dropWhile_not isBlank s
  rw [Option.mem_def.1 hc] at h
  simpa using h

theorem exists_eq_trimEnd_append (s : List Char) : ∃ rest, s = trimEnd s ++ rest := by
  refine ⟨(s.reverse.takeWhile isBlank).reverse, ?_⟩
  rw [trimEnd, ← List.reverse_append, List.takeWhile_append_dropWhile, List.reverse_reverse]

/-- A trimmed text does not begin with a blank. -/
theorem head?_trim (s : List Char) : ∀ c ∈ (trim s).head?, isBlank c = false := by
  intro c hc
  obtain ⟨rest, hrest⟩ := exists_eq_trimEnd_append (s.dropWhile isBlank)
  refine head?_dropWhile_isBlank s c ?_
  rw [hrest, List.head?_append]
  rw [trim, Option.mem_def] at hc
  rw [hc]
  rfl

/-- A trimmed text does not end with a blank. -/
theorem getLast?_trim (s : List Char) : ∀ c ∈ (trim s).getLast?, isBlank c = false := by
  intro c hc
  rw [trim, trimEnd, List.getLast?_reverse] at hc
  exact head?_dropWhile_isBlank _ c hc

theorem dropWhile_eq_self {s : List Char} (hhead : ∀ c ∈ s.head?, isBlank c = false) :
    s.dropWhile isBlank = s := by
  cases s with
  | nil => rfl
  | cons c rest => rw [List.dropWhile_cons, if_neg (by simp [hhead c rfl])]

/-- A text without blanks at its ends is trimmed already. -/
theorem trim_eq_self {s : List Char} (hhead : ∀ c ∈ s.head?, isBlank c = false)
    (hlast : ∀ c ∈ s.getLast?, isBlank c = false) : trim s = s := by
  rw [trim, dropWhile_eq_self hhead, trimEnd, dropWhile_eq_self, List.reverse_reverse]
  rwa [List.head?_reverse]

/-- A text without any blank is trimmed already. -/
theorem trim_eq_self_of_forall {s : List Char} (hs : ∀ c ∈ s, isBlank c = false) : trim s = s :=
  trim_eq_self (fun c hc => hs c (List.mem_of_mem_head? hc))
    (fun c hc => hs c (List.mem_of_getLast? hc))

/-! ## Blanks and the table of lower cases -/

namespace LowerCase

/-- The ranges of the blank characters. -/
def blanks : Ranges :=
  [(0x09, 0x0d), (0x1c, 0x20), (0x85, 0x85), (0xa0, 0xa0), (0x1680, 0x1680), (0x2000, 0x200a),
    (0x2028, 0x2028), (0x2029, 0x2029), (0x202f, 0x202f), (0x205f, 0x205f), (0x3000, 0x3000)]

theorem exists_mem_blanks {c : Char} (hc : isBlank c = true) :
    ∃ r ∈ blanks, r.1 ≤ c.toNat ∧ c.toNat ≤ r.2 := by
  simp only [isBlank, Bool.or_eq_true, Bool.and_eq_true, decide_eq_true_eq, beq_iff_eq] at hc
  simp only [blanks, List.mem_cons, List.not_mem_nil, or_false, exists_eq_or_imp,
    exists_eq_left]
  omega

/-- Where a run sends a character: as far behind the start of the lower cases. -/
theorem exists_run_of_find? {n m : Nat} (h : runs.findSome? (·.find? n) = some m) :
    ∃ r ∈ runs, r.first ≤ n ∧ n ≤ r.last ∧ m = r.lower + (n - r.first) := by
  obtain ⟨r, hr, hfind⟩ := List.exists_of_findSome?_eq_some h
  rw [Run.find?] at hfind
  split at hfind
  · next hrange =>
      simp only [Bool.and_eq_true, decide_eq_true_eq] at hrange
      exact ⟨r, hr, hrange.1.1, hrange.1.2, (Option.some.inj hfind).symm⟩
  · cases hfind

/-- **What the lower case of a character can be**: in ASCII that of ASCII, for one capital two
characters, and otherwise the character itself or the one that a run sends it to. -/
theorem ofChar_cases (c : Char) :
    (c.toNat < 0x80 ∧ ofChar c = [c.toLower]) ∨
    (c.toNat = 0x130 ∧ ofChar c = ['i', '\u0307']) ∨
    (0x80 ≤ c.toNat ∧ ofChar c = [c]) ∨
    (0x80 ≤ c.toNat ∧ ∃ r ∈ runs, r.first ≤ c.toNat ∧ c.toNat ≤ r.last ∧
      ofChar c = [Char.ofNat (r.lower + (c.toNat - r.first))]) := by
  rw [ofChar]
  split
  · next hascii => exact .inl ⟨hascii, rfl⟩
  · next hascii =>
      have hbeyond : 0x80 ≤ c.toNat := Nat.le_of_not_lt hascii
      split
      · next hdot => exact .inr (.inl ⟨eq_of_beq hdot, rfl⟩)
      · split
        · next m hrun =>
            obtain ⟨r, hr, hfirst, hlast, rfl⟩ := exists_run_of_find? hrun
            exact .inr (.inr (.inr ⟨hbeyond, r, hr, hfirst, hlast, rfl⟩))
        · exact .inr (.inr (.inl ⟨hbeyond, rfl⟩))

theorem ofChar_ne_nil (c : Char) : ofChar c ≠ [] := by
  rcases ofChar_cases c with ⟨-, h⟩ | ⟨-, h⟩ | ⟨-, h⟩ | ⟨-, _, -, -, -, h⟩
  all_goals
    rw [h]
    exact List.cons_ne_nil _ _

theorem toNat_ofNat_eq (n : Nat) : (Char.ofNat n).toNat = n ∨ (Char.ofNat n).toNat = 0 := by
  by_cases hvalid : n.isValidChar
  · have hchar : Char.ofNat n = Char.ofNatAux n hvalid := dif_pos hvalid
    rw [hchar]
    exact Or.inl rfl
  · have hchar : Char.ofNat n = ⟨0, Or.inl (by decide)⟩ := dif_neg hvalid
    rw [hchar]
    exact Or.inr rfl

/-- Every run passes by every blank, and so do its lower cases. -/
theorem runs_avoid_blanks :
    runs.all (fun r => blanks.all fun b =>
      (r.last < b.1 || b.2 < r.first) &&
        (r.lower + (r.last - r.first) < b.1 || b.2 < r.lower)) = true := by
  decide +kernel

theorem avoids_blank {r : Run} (hr : r ∈ runs) {b : Nat × Nat} (hb : b ∈ blanks) :
    (r.last < b.1 ∨ b.2 < r.first) ∧ (r.lower + (r.last - r.first) < b.1 ∨ b.2 < r.lower) := by
  have havoid := List.all_eq_true.1 (List.all_eq_true.1 runs_avoid_blanks r hr) b hb
  simpa only [Bool.and_eq_true, Bool.or_eq_true, decide_eq_true_eq] using havoid

theorem toLower_of_isBlank {c : Char} (hc : isBlank c = true) : c.toLower = c := by
  obtain ⟨b, hb, hlow, hhigh⟩ := exists_mem_blanks hc
  have hrange : ∀ r ∈ blanks, r.2 < 'A'.toNat ∨ 'Z'.toNat < r.1 := by decide
  refine dif_neg fun hupper => ?_
  have h1 : 'A'.toNat ≤ c.toNat := UInt32.le_iff_toNat_le.1 hupper.1
  have h2 : c.toNat ≤ 'Z'.toNat := UInt32.le_iff_toNat_le.1 hupper.2
  have := hrange b hb
  omega

/-- A blank is its own lower case. -/
theorem ofChar_of_isBlank {c : Char} (hc : isBlank c = true) : ofChar c = [c] := by
  obtain ⟨b, hb, hlow, hhigh⟩ := exists_mem_blanks hc
  rcases ofChar_cases c with ⟨-, h⟩ | ⟨hdot, -⟩ | ⟨-, h⟩ | ⟨-, r, hr, hfirst, hlast, -⟩
  · rw [h, toLower_of_isBlank hc]
  · have hrange : ∀ r ∈ blanks, r.2 < 0x130 ∨ 0x130 < r.1 := by decide
    have := hrange b hb
    omega
  · exact h
  · have := (avoids_blank hr hb).1
    omega

/-- Nothing but a blank has a blank in its lower case. -/
theorem isBlank_of_mem_ofChar {c d : Char} (hc : isBlank c = false) (hd : d ∈ ofChar c) :
    isBlank d = false := by
  rcases ofChar_cases c with ⟨hascii, h⟩ | ⟨-, h⟩ | ⟨-, h⟩ | ⟨-, r, hr, hfirst, hlast, h⟩
  all_goals rw [h] at hd
  · rw [List.mem_singleton.1 hd]
    have hall : ∀ n : Fin 0x80, isBlank (Char.ofNat n) = false →
        isBlank (Char.ofNat n).toLower = false := by decide +kernel
    have := hall ⟨c.toNat, hascii⟩
    rw [Char.ofNat_toNat] at this
    exact this hc
  · have hboth : ∀ x ∈ ['i', '\u0307'], isBlank x = false := by
      rw [List.forall_mem_cons, List.forall_mem_singleton]
      decide
    exact hboth d hd
  · rw [List.mem_singleton.1 hd]
    exact hc
  · rw [List.mem_singleton.1 hd]
    by_contra hblank
    rw [Bool.not_eq_false] at hblank
    obtain ⟨b, hb, hlow, hhigh⟩ := exists_mem_blanks hblank
    have havoid := (avoids_blank hr hb).2
    -- A number that is no character stands for the null character, which is no blank either.
    have hpos : ∀ b ∈ blanks, 0 < b.1 := by decide
    have := hpos b hb
    rcases toNat_ofNat_eq (r.lower + (c.toNat - r.first)) with h | h <;> omega

/-! ## The ends of a lower case

The lower case of a character depends on its neighbours when it is the capital sigma. All that
matters here is that it is never empty and has a blank only if the character is one. -/

/-- What one character contributes between `before` and `rest`. -/
def image (before : List Char) (c : Char) (rest : List Char) : List Char :=
  if c = 'Σ' then [sigma before rest] else ofChar c

theorem walk_cons (before : List Char) (c : Char) (rest : List Char) :
    walk before (c :: rest) = image before c rest ++ walk (c :: before) rest := rfl

theorem sigma_cases (before rest : List Char) :
    sigma before rest = 'ς' ∨ sigma before rest = 'σ' := by
  rw [sigma]
  split
  · exact Or.inl rfl
  · exact Or.inr rfl

theorem image_ne_nil (before : List Char) (c : Char) (rest : List Char) :
    image before c rest ≠ [] := by
  rw [image]
  split
  · exact List.cons_ne_nil _ _
  · exact ofChar_ne_nil c

/-- A character is blank exactly when anything it contributes is. -/
theorem isBlank_of_mem_image {before rest : List Char} {c d : Char}
    (hd : d ∈ image before c rest) : isBlank d = isBlank c := by
  rw [image] at hd
  split at hd
  · next hsigma =>
      rw [List.mem_singleton.1 hd, hsigma]
      rcases sigma_cases before rest with h | h <;> rw [h] <;> decide
  · cases hc : isBlank c with
    | true =>
        rw [ofChar_of_isBlank hc, List.mem_singleton] at hd
        rw [hd, hc]
    | false => exact isBlank_of_mem_ofChar hc hd

theorem walk_ne_nil {before : List Char} {c : Char} {rest : List Char} :
    walk before (c :: rest) ≠ [] := by
  rw [walk_cons]
  exact List.append_ne_nil_of_left_ne_nil (image_ne_nil before c rest) _

/-- Lower-casing keeps whether there is a blank in front. -/
theorem head?_walk_iff (before s : List Char) :
    (∀ d ∈ (walk before s).head?, isBlank d = false) ↔ ∀ c ∈ s.head?, isBlank c = false := by
  cases s with
  | nil => exact Iff.rfl
  | cons c rest =>
      obtain ⟨d, tail, himage⟩ := List.exists_cons_of_ne_nil (image_ne_nil before c rest)
      have hd : isBlank d = isBlank c :=
        isBlank_of_mem_image (by rw [himage]; exact List.mem_cons_self)
      rw [walk_cons, himage]
      simp [hd]

/-- Lower-casing keeps whether there is a blank at the end. -/
theorem getLast?_walk_iff (before s : List Char) :
    (∀ d ∈ (walk before s).getLast?, isBlank d = false) ↔
      ∀ c ∈ s.getLast?, isBlank c = false := by
  induction s generalizing before with
  | nil => exact Iff.rfl
  | cons c rest ih =>
      cases rest with
      | nil =>
          have hlast := List.getLast?_eq_some_getLast (image_ne_nil before c [])
          have hd := isBlank_of_mem_image (List.getLast_mem (image_ne_nil before c []))
          rw [walk_cons, walk, List.append_nil, hlast]
          simp [hd]
      | cons c' rest =>
          rw [walk_cons, List.getLast?_append_of_ne_nil _ walk_ne_nil, ih (c :: before)]
          simp

/-! ## The characters of written numbers -/

open Numeral (Spelling)

/-- Digits and the marks of written numbers. -/
def IsNumberChar (c : Char) : Prop := c.isDigit = true ∨ c ∈ Spelling.marks

instance (c : Char) : Decidable (IsNumberChar c) :=
  inferInstanceAs (Decidable (_ ∨ _))

/-- The one other character that has such a character as its lower case is the capital `E`. -/
def foldMark (c : Char) : Char := if c = 'E' then 'e' else c

theorem toNat_bounds_of_isNumberChar {c : Char} (hc : IsNumberChar c) :
    0x2b ≤ c.toNat ∧ c.toNat ≤ 0x65 := by
  rcases hc with hdigit | hmark
  · have hlow : 0x30 ≤ c.toNat := (Char.isDigit_iff_toNat.1 hdigit).1
    have hhigh : c.toNat ≤ 0x39 := (Char.isDigit_iff_toNat.1 hdigit).2
    omega
  · have hall : Spelling.marks.all (fun m => 0x2b ≤ m.toNat && m.toNat ≤ 0x65) = true := by decide
    simpa using List.all_eq_true.1 hall c hmark

theorem not_isBlank_of_isNumberChar {c : Char} (hc : IsNumberChar c) : isBlank c = false := by
  by_contra hblank
  rw [Bool.not_eq_false] at hblank
  obtain ⟨b, hb, hlow, hhigh⟩ := exists_mem_blanks hblank
  have hbounds := toNat_bounds_of_isNumberChar hc
  have hall : ∀ b ∈ blanks, b.2 < 0x2b ∨ 0x65 < b.1 := by decide
  have := hall b hb
  omega

/-- Such a character is its own lower case. -/
theorem ofChar_of_isNumberChar {c : Char} (hc : IsNumberChar c) : ofChar c = [c] := by
  have hascii : c.toNat < 0x80 := by
    have := toNat_bounds_of_isNumberChar hc
    omega
  have hall : ∀ n : Fin 0x80, IsNumberChar (Char.ofNat n) →
      (Char.ofNat n).toLower = Char.ofNat n := by decide +kernel
  have hlower := hall ⟨c.toNat, hascii⟩
  rw [Char.ofNat_toNat] at hlower
  rw [ofChar, if_pos hascii, hlower hc]

/-- Outside ASCII no lower case reaches down to these characters. -/
theorem runs_above_numbers :
    runs.all (fun r => r.last < 0x80 || 0x65 < r.lower) = true := by
  decide +kernel

/-- A character whose lower case consists of such characters is one, or the capital `E`. -/
theorem ofChar_eq_foldMark {c : Char} (hc : ∀ d ∈ ofChar c, IsNumberChar d) :
    ofChar c = [foldMark c] := by
  rcases ofChar_cases c with ⟨hascii, h⟩ | ⟨-, h⟩ | ⟨hbeyond, h⟩ | ⟨hbeyond, r, hr, hfirst, hlast, h⟩
  all_goals rw [h] at hc
  · have hall : ∀ n : Fin 0x80, IsNumberChar (Char.ofNat n).toLower →
        (Char.ofNat n).toLower = foldMark (Char.ofNat n) := by decide +kernel
    have hfold := hall ⟨c.toNat, hascii⟩
    rw [Char.ofNat_toNat] at hfold
    rw [h, hfold (hc _ List.mem_cons_self)]
  · exact absurd (hc 'i' List.mem_cons_self) (by decide)
  · have := toNat_bounds_of_isNumberChar (hc c List.mem_cons_self)
    omega
  · have hbounds := toNat_bounds_of_isNumberChar (hc _ List.mem_cons_self)
    have habove := List.all_eq_true.1 runs_above_numbers r hr
    simp only [Bool.or_eq_true, decide_eq_true_eq] at habove
    rcases toNat_ofNat_eq (r.lower + (c.toNat - r.first)) with h | h <;> omega

theorem walk_eq_self {before s : List Char} (hs : ∀ c ∈ s, IsNumberChar c) :
    walk before s = s := by
  induction s generalizing before with
  | nil => rfl
  | cons c rest ih =>
      have hc := hs c List.mem_cons_self
      have hsigma : c ≠ 'Σ' := by rintro rfl; exact absurd hc (by decide)
      rw [walk_cons, image, if_neg hsigma, ofChar_of_isNumberChar hc,
        ih (fun d hd => hs d (List.mem_cons_of_mem c hd)), List.singleton_append]

theorem eq_map_of_walk {before s : List Char} (hs : ∀ d ∈ walk before s, IsNumberChar d) :
    walk before s = s.map foldMark := by
  induction s generalizing before with
  | nil => rfl
  | cons c rest ih =>
      rw [walk_cons] at hs ⊢
      have himage : ∀ d ∈ image before c rest, IsNumberChar d :=
        fun d hd => hs d (List.mem_append_left _ hd)
      rw [image] at himage ⊢
      rw [ih (fun d hd => hs d (List.mem_append_right _ hd)), List.map_cons]
      split at himage
      · have hsigma := himage _ List.mem_cons_self
        rcases sigma_cases before rest with h | h <;> rw [h] at hsigma <;>
          exact absurd hsigma (by decide)
      · next hne => rw [if_neg hne, ofChar_eq_foldMark himage, List.singleton_append]

end LowerCase

open LowerCase

/-! ## Lower case and trimming -/

/-- **What has the lower case of a trimmed text is trimmed itself.** -/
theorem trim_eq_of_lower_eq {s t : List Char} (h : lower (trim t) = lower s) : trim s = s := by
  refine trim_eq_self ?_ ?_
  · rw [← head?_walk_iff [] s]
    change ∀ d ∈ (lower s).head?, isBlank d = false
    rw [← h]
    exact (head?_walk_iff [] (trim t)).2 (head?_trim t)
  · rw [← getLast?_walk_iff [] s]
    change ∀ d ∈ (lower s).getLast?, isBlank d = false
    rw [← h]
    exact (getLast?_walk_iff [] (trim t)).2 (getLast?_trim t)

/-- A written number is trimmed. -/
theorem trim_text (s : Numeral.Spelling) : trim s.text = s.text :=
  trim_eq_self_of_forall fun _ hc => not_isBlank_of_isNumberChar (Numeral.Spelling.mem_text hc)

/-- **What has the lower case of a written number is that number**, up to its exponent mark. -/
theorem map_foldMark_of_lower_eq {w : List Char} {s : Numeral.Spelling}
    (h : lower s.text = lower w) : w.map foldMark = s.text := by
  have hself : lower s.text = s.text := walk_eq_self fun _ hc => Numeral.Spelling.mem_text hc
  rw [hself] at h
  have hw : lower w = w.map foldMark := by
    refine eq_map_of_walk (fun d hd => ?_)
    change d ∈ lower w at hd
    rw [← h] at hd
    exact Numeral.Spelling.mem_text hd
  rw [← hw, h]

end FilterQuery.Text

/-! ## Numerals do not depend on the case of their mark -/

namespace FilterQuery.Numeral

open FilterQuery.Text FilterQuery.Text.LowerCase

theorem digitValue?_foldMark (c : Char) : digitValue? (foldMark c) = digitValue? c := by
  rw [foldMark]
  split
  · next h =>
      rw [h]
      decide
  · rfl

theorem takeSign_map_foldMark (s : List Char) :
    takeSign (s.map foldMark) = ((takeSign s).1, (takeSign s).2.map foldMark) := by
  cases s with
  | nil => rfl
  | cons c rest =>
      by_cases hminus : c = '-'
      · subst hminus; rfl
      by_cases hplus : c = '+'
      · subst hplus; rfl
      have hfold : ∀ d : Char, d ≠ 'e' → c ≠ d → foldMark c ≠ d := by
        intro d hd hc
        rw [foldMark]
        split
        · exact Ne.symm hd
        · exact hc
      have hpass : ∀ (d : Char) (tail : List Char), d ≠ '-' → d ≠ '+' →
          takeSign (d :: tail) = (false, d :: tail) := by
        intro d tail h1 h2
        rw [takeSign]
        · exact fun _ h => h1 (List.cons.inj h).1
        · exact fun _ h => h2 (List.cons.inj h).1
      rw [List.map_cons, hpass c rest hminus hplus,
        hpass _ _ (hfold '-' (by decide) hminus) (hfold '+' (by decide) hplus)]
      rfl

theorem takeDigits_map_foldMark (s : List Char) :
    takeDigits (s.map foldMark) = ((takeDigits s).1, (takeDigits s).2.map foldMark) := by
  induction s with
  | nil => rfl
  | cons c rest ih =>
      rw [List.map_cons, takeDigits, takeDigits, digitValue?_foldMark]
      cases digitValue? c with
      | none => rfl
      | some d => simp only [ih]

theorem takeFraction_map_foldMark (s : List Char) :
    takeFraction (s.map foldMark) = ((takeFraction s).1, (takeFraction s).2.map foldMark) := by
  cases s with
  | nil => rfl
  | cons c rest =>
      by_cases hpoint : c = '.'
      · subst hpoint
        change (some (takeDigits (rest.map foldMark)).1, (takeDigits (rest.map foldMark)).2) = _
        rw [takeDigits_map_foldMark]
        rfl
      · have hfold : foldMark c ≠ '.' := by
          rw [foldMark]
          split
          · decide
          · exact hpoint
        have hpass : ∀ (d : Char) (tail : List Char), d ≠ '.' →
            takeFraction (d :: tail) = (none, d :: tail) := by
          intro d tail h
          rw [takeFraction]
          exact fun _ h' => h (List.cons.inj h').1
        rw [List.map_cons, hpass c rest hpoint, hpass _ _ hfold]
        rfl

theorem exponent?_map_foldMark (s : List Char) : exponent? (s.map foldMark) = exponent? s := by
  cases s with
  | nil => rfl
  | cons c rest =>
      have hmark : (foldMark c = 'e' ∨ foldMark c = 'E') ↔ (c = 'e' ∨ c = 'E') := by
        rw [foldMark]
        split
        · next h => simp [h]
        · exact Iff.rfl
      simp only [List.map_cons, exponent?, takeSign_map_foldMark, takeDigits_map_foldMark,
        Bool.or_eq_true, decide_eq_true_eq, hmark, List.map_eq_nil_iff]

/-- **A numeral is one whatever the case of its exponent mark**, and with the same parts. -/
theorem ofChars?_map_foldMark (s : List Char) : ofChars? (s.map foldMark) = ofChars? s := by
  simp only [ofChars?, takeSign_map_foldMark, takeDigits_map_foldMark, takeFraction_map_foldMark,
    exponent?_map_foldMark]

end FilterQuery.Numeral
