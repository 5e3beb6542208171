/-
Rows of digits, read as numbers.

A numeral is read part by part, each part a row of digits followed by something that is not one, and
a number is written with the ten digits of ASCII. So three things are needed: those ten are digits
with the value one expects (`digitValue?_of_isDigit`), it can be told where a row of digits ends
(`EndsDigits`), and positional values add up (`ofDigits_append`), zeros at the end counting as powers
of ten.
-/
import FilterQuery.Number.Numeral
import FilterQuery.Number.Shortest
import Mathlib.Data.List.TakeWhile
import Mathlib.Tactic.Ring

set_option autoImplicit false

namespace FilterQuery.Text

/-! ## The value of a row -/

theorem ofDigits_append (a b : List Nat) :
    ofDigits (a ++ b) = ofDigits a * 10 ^ b.length + ofDigits b := by
  have key : ∀ (n : Nat), b.foldl (fun n d => 10 * n + d) n
      = n * 10 ^ b.length + b.foldl (fun n d => 10 * n + d) 0 := by
    induction b with
    | nil => intro n; simp
    | cons d b ih =>
        intro n
        rw [List.foldl_cons, List.foldl_cons, ih (10 * n + d), ih (10 * 0 + d), List.length_cons,
          pow_succ]
        ring
  rw [ofDigits, List.foldl_append, key]
  rfl

@[simp] theorem ofDigits_nil : ofDigits [] = 0 := rfl

theorem ofDigits_cons (d : Nat) (ds : List Nat) :
    ofDigits (d :: ds) = d * 10 ^ ds.length + ofDigits ds := by
  rw [← List.singleton_append, ofDigits_append]
  simp [ofDigits]

@[simp] theorem ofDigits_replicate_zero (n : Nat) : ofDigits (List.replicate n 0) = 0 := by
  induction n with
  | zero => rfl
  | succ n ih => rw [List.replicate_succ, ofDigits_cons, ih, Nat.zero_mul]

/-- A row denotes less than the power of ten of its length. -/
theorem ofDigits_lt {ds : List Nat} (hds : ∀ d ∈ ds, d < 10) : ofDigits ds < 10 ^ ds.length := by
  induction ds with
  | nil => decide
  | cons d ds ih =>
      have hd : d < 10 := hds d List.mem_cons_self
      have hrest := ih (fun c hc => hds c (List.mem_cons_of_mem d hc))
      rw [ofDigits_cons, List.length_cons, pow_succ]
      have hmul : d * 10 ^ ds.length ≤ 9 * 10 ^ ds.length := Nat.mul_le_mul_right _ (by omega)
      omega

/-! ## The digits that numbers are written with -/

/-- The ten digits of ASCII have the distance from zero as their value. -/
theorem digitValue?_of_isDigit {c : Char} (hc : c.isDigit = true) :
    digitValue? c = some (asciiDigitValue c) := by
  have hfirst : (0x30 ≤ c.toNat && c.toNat < 0x30 + 10) = true := by
    obtain ⟨hlow, hhigh⟩ := Char.isDigit_iff_toNat.1 hc
    rw [Bool.and_eq_true, decide_eq_true_eq, decide_eq_true_eq]
    exact ⟨hlow, Nat.lt_succ_of_le hhigh⟩
  rw [digitValue?, digitZeros, List.findSome?_cons, if_pos hfirst]
  rfl

/-- The digits written for a number denote it. -/
theorem ofDigits_toDigits (n : Nat) : ofDigits ((Nat.toDigits 10 n).map asciiDigitValue) = n := by
  have h := Nat.ofDigitChars_ten_toDigits (n := n)
  rw [Nat.ofDigitChars_eq_foldl] at h
  rw [ofDigits, List.foldl_map]
  exact h

theorem isDigit_of_mem_toDigits {n : Nat} : ∀ c ∈ Nat.toDigits 10 n, c.isDigit = true :=
  fun _ hc => Nat.isDigit_of_mem_toDigits (by decide) (by decide) hc

end FilterQuery.Text

/-! ## The end of a row -/

namespace FilterQuery.Numeral

open FilterQuery.Text

/-- What may follow a row of digits for the row to end there. -/
def EndsDigits (rest : List Char) : Prop :=
  ∀ c ∈ rest.head?, digitValue? c = none

theorem endsDigits_nil : EndsDigits [] := by
  intro c hc
  cases hc

theorem endsDigits_cons {c : Char} (rest : List Char) (hc : digitValue? c = none) :
    EndsDigits (c :: rest) := by
  intro d hd
  cases hd
  exact hc

theorem takeDigits_of_endsDigits {rest : List Char} (hrest : EndsDigits rest) :
    takeDigits rest = ([], rest) := by
  cases rest with
  | nil => rfl
  | cons c rest => rw [takeDigits, hrest c rfl]

end FilterQuery.Numeral

/-! ## Zeros at the end -/

namespace FilterQuery.Shortest

open FilterQuery.Text

/-- Dropping the zeros at the end drops zeros. -/
theorem exists_eq_dropZeros_append (ds : List Char) :
    ∃ n, ds = dropZeros ds ++ List.replicate n '0' := by
  refine ⟨(ds.reverse.takeWhile (· = '0')).length, ?_⟩
  have hzeros : ds.reverse.takeWhile (· = '0')
      = List.replicate (ds.reverse.takeWhile (· = '0')).length '0' := by
    refine List.eq_replicate_of_mem (fun c hc => ?_)
    simpa using List.mem_takeWhile_imp hc
  have hsplit := congrArg List.reverse (List.takeWhile_append_dropWhile
    (p := fun c => decide (c = '0')) (l := ds.reverse))
  rw [List.reverse_append, List.reverse_reverse] at hsplit
  conv => lhs; rw [← hsplit]
  rw [dropZeros]
  congr 1
  rw [hzeros, List.reverse_replicate, List.length_replicate]

theorem mem_of_mem_dropZeros {ds : List Char} {c : Char} (hc : c ∈ dropZeros ds) : c ∈ ds := by
  obtain ⟨n, hn⟩ := exists_eq_dropZeros_append ds
  rw [hn]
  exact List.mem_append_left _ hc

/-- A row without its zeros at the end denotes a number, and the zeros are factors of ten. -/
theorem exists_ofDigits_dropZeros (ds : List Char) :
    ∃ n, ds.length = (dropZeros ds).length + n ∧
      ofDigits (ds.map asciiDigitValue)
        = ofDigits ((dropZeros ds).map asciiDigitValue) * 10 ^ n := by
  obtain ⟨n, hn⟩ := exists_eq_dropZeros_append ds
  refine ⟨n, ?_, ?_⟩
  · conv => lhs; rw [hn]
    simp
  · conv => lhs; rw [hn]
    rw [List.map_append, ofDigits_append, List.map_replicate]
    simp [asciiDigitValue]

end FilterQuery.Shortest
