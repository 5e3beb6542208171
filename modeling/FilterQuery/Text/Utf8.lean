/-
UTF-8, written and read.

Writing is the usual four cases. Reading never fails: bytes that are not UTF-8 give the replacement
character U+FFFD, one for each longest beginning of a well formed sequence and one for each byte
that cannot begin any. The reader keeps what it has seen of the current character in a `Progress`
and takes one byte at a time, so it is a plain recursion on the bytes; the interval that the next
byte has to lie in is part of the progress, which is where overlong forms, surrogates and code
points beyond U+10FFFF are refused.

Main statement: reading what was written gives the text back, whatever follows it
(`decodeFrom_encodeChar_append`, `decode_encode`).
-/

set_option autoImplicit false

namespace FilterQuery.Text.Utf8

/-! ## Writing -/

/-- The bytes of one character. -/
def encodeChar (c : Char) : List UInt8 :=
  let n := c.toNat
  if n < 0x80 then [.ofNat n]
  else if n < 0x800 then [.ofNat (0xc0 + n / 0x40), .ofNat (0x80 + n % 0x40)]
  else if n < 0x10000 then
    [.ofNat (0xe0 + n / 0x1000), .ofNat (0x80 + n / 0x40 % 0x40), .ofNat (0x80 + n % 0x40)]
  else
    [.ofNat (0xf0 + n / 0x40000), .ofNat (0x80 + n / 0x1000 % 0x40),
      .ofNat (0x80 + n / 0x40 % 0x40), .ofNat (0x80 + n % 0x40)]

/-- The bytes of a text. -/
def encode (s : List Char) : List UInt8 :=
  s.flatMap encodeChar

/-! ## Reading -/

/-- Where the reader stands: between two characters, or inside one whose bits so far are `value`
and of which `missing + 1` bytes are still to come, the next one between `low` and `high`. -/
inductive Progress where
  | between
  | inside (value missing low high : Nat)
deriving DecidableEq, Repr

/-- The character that stands for bytes that are not UTF-8. -/
def replacement : Char := '\uFFFD'

/-- The first byte of a character. -/
def begin (b : Nat) : List Char × Progress :=
  if b < 0x80 then ([Char.ofNat b], .between)
  else if b < 0xc2 then ([replacement], .between)
  else if b < 0xe0 then ([], .inside (b - 0xc0) 0 0x80 0xbf)
  else if b < 0xf0 then
    ([], .inside (b - 0xe0) 1 (if b = 0xe0 then 0xa0 else 0x80) (if b = 0xed then 0x9f else 0xbf))
  else if b < 0xf5 then
    ([], .inside (b - 0xf0) 2 (if b = 0xf0 then 0x90 else 0x80) (if b = 0xf4 then 0x8f else 0xbf))
  else ([replacement], .between)

/-- One byte: the characters that it completes or breaks off, and where the reader stands then. A
byte that breaks a character off begins the next one. -/
def step : Progress → Nat → List Char × Progress
  | .between, b => begin b
  | .inside value missing low high, b =>
    if low ≤ b && b ≤ high then
      let value := value * 0x40 + b % 0x40
      match missing with
      | 0 => ([Char.ofNat value], .between)
      | missing + 1 => ([], .inside value missing 0x80 0xbf)
    else
      let (out, progress) := begin b
      (replacement :: out, progress)

/-- The characters of the bytes that follow `progress`. -/
def decodeFrom : Progress → List UInt8 → List Char
  | .between, [] => []
  | .inside .., [] => [replacement]
  | progress, b :: rest =>
    (step progress b.toNat).1 ++ decodeFrom (step progress b.toNat).2 rest

/-- The text of some bytes. -/
def decode (bytes : List UInt8) : List Char :=
  decodeFrom .between bytes

/-! ## Reading what was written -/

@[simp] theorem decodeFrom_between_nil : decodeFrom .between [] = [] := rfl

@[simp] theorem decodeFrom_cons (p : Progress) (b : UInt8) (rest : List UInt8) :
    decodeFrom p (b :: rest) = (step p b.toNat).1 ++ decodeFrom (step p b.toNat).2 rest := by
  cases p <;> rfl

private theorem toNat_ofNat {n : Nat} (h : n < 0x100) : (UInt8.ofNat n).toNat = n := by
  simp [UInt8.toNat_ofNat', Nat.mod_eq_of_lt h]

private theorem step_last {value low high b : Nat} (hl : low ≤ b) (hh : b ≤ high) :
    step (.inside value 0 low high) b = ([Char.ofNat (value * 0x40 + b % 0x40)], .between) := by
  simp [step, hl, hh]

private theorem step_more {value missing low high b : Nat} (hl : low ≤ b) (hh : b ≤ high) :
    step (.inside value (missing + 1) low high) b =
      ([], .inside (value * 0x40 + b % 0x40) missing 0x80 0xbf) := by
  simp [step, hl, hh]

/-- A character is read back, whatever follows it. -/
theorem decodeFrom_encodeChar_append (c : Char) (rest : List UInt8) :
    decodeFrom .between (encodeChar c ++ rest) = c :: decodeFrom .between rest := by
  have valid : c.toNat < 0xd800 ∨ 0xdfff < c.toNat ∧ c.toNat < 0x110000 := c.valid
  have back : Char.ofNat c.toNat = c := Char.ofNat_toNat c
  unfold encodeChar
  generalize c.toNat = n at *
  by_cases h1 : n < 0x80
  · simp [h1, toNat_ofNat (show n < 0x100 by omega), step, begin, back]
  by_cases h2 : n < 0x800
  · have b1 : begin (0xc0 + n / 0x40) = ([], .inside (n / 0x40) 0 0x80 0xbf) := by
      simp [begin, show ¬ 0xc0 + n / 0x40 < 0x80 by omega,
        show ¬ 0xc0 + n / 0x40 < 0xc2 by omega, show 0xc0 + n / 0x40 < 0xe0 by omega]
    simp only [h1, h2, if_true, if_false, List.cons_append, List.nil_append, decodeFrom_cons,
      toNat_ofNat (show 0xc0 + n / 0x40 < 0x100 by omega),
      toNat_ofNat (show 0x80 + n % 0x40 < 0x100 by omega)]
    simp only [step, b1]
    rw [if_pos (by simp; omega), show n / 0x40 * 0x40 + (0x80 + n % 0x40) % 0x40 = n by omega, back]
    rfl
  by_cases h3 : n < 0x10000
  · have b1 : begin (0xe0 + n / 0x1000) = ([], .inside (n / 0x1000) 1
        (if 0xe0 + n / 0x1000 = 0xe0 then 0xa0 else 0x80)
        (if 0xe0 + n / 0x1000 = 0xed then 0x9f else 0xbf)) := by
      simp [begin, show ¬ 0xe0 + n / 0x1000 < 0x80 by omega,
        show ¬ 0xe0 + n / 0x1000 < 0xc2 by omega, show ¬ 0xe0 + n / 0x1000 < 0xe0 by omega,
        show 0xe0 + n / 0x1000 < 0xf0 by omega]
    simp only [h1, h2, h3, if_true, if_false, List.cons_append, List.nil_append, decodeFrom_cons,
      toNat_ofNat (show 0xe0 + n / 0x1000 < 0x100 by omega),
      toNat_ofNat (show 0x80 + n / 0x40 % 0x40 < 0x100 by omega),
      toNat_ofNat (show 0x80 + n % 0x40 < 0x100 by omega)]
    rw [show step .between (0xe0 + n / 0x1000) = _ from b1,
      step_more (by split <;> omega) (by split <;> omega), step_last (by omega) (by omega),
      show (n / 0x1000 * 0x40 + (0x80 + n / 0x40 % 0x40) % 0x40) * 0x40 +
        (0x80 + n % 0x40) % 0x40 = n by omega, back]
    rfl
  · have b1 : begin (0xf0 + n / 0x40000) = ([], .inside (n / 0x40000) 2
        (if 0xf0 + n / 0x40000 = 0xf0 then 0x90 else 0x80)
        (if 0xf0 + n / 0x40000 = 0xf4 then 0x8f else 0xbf)) := by
      simp [begin, show ¬ 0xf0 + n / 0x40000 < 0x80 by omega,
        show ¬ 0xf0 + n / 0x40000 < 0xc2 by omega, show ¬ 0xf0 + n / 0x40000 < 0xe0 by omega,
        show ¬ 0xf0 + n / 0x40000 < 0xf0 by omega, show 0xf0 + n / 0x40000 < 0xf5 by omega]
    simp only [h1, h2, h3, if_false, List.cons_append, List.nil_append, decodeFrom_cons,
      toNat_ofNat (show 0xf0 + n / 0x40000 < 0x100 by omega),
      toNat_ofNat (show 0x80 + n / 0x1000 % 0x40 < 0x100 by omega),
      toNat_ofNat (show 0x80 + n / 0x40 % 0x40 < 0x100 by omega),
      toNat_ofNat (show 0x80 + n % 0x40 < 0x100 by omega)]
    rw [show step .between (0xf0 + n / 0x40000) = _ from b1,
      step_more (by split <;> omega) (by split <;> omega), step_more (by omega) (by omega),
      step_last (by omega) (by omega),
      show ((n / 0x40000 * 0x40 + (0x80 + n / 0x1000 % 0x40) % 0x40) * 0x40 +
        (0x80 + n / 0x40 % 0x40) % 0x40) * 0x40 + (0x80 + n % 0x40) % 0x40 = n by omega, back]
    rfl

/-- A text is read back, whatever follows it. -/
theorem decodeFrom_encode_append (s : List Char) (rest : List UInt8) :
    decodeFrom .between (encode s ++ rest) = s ++ decodeFrom .between rest := by
  induction s with
  | nil => rfl
  | cons c s ih =>
    have : encode (c :: s) = encodeChar c ++ encode s := rfl
    rw [this, List.append_assoc, decodeFrom_encodeChar_append, ih, List.cons_append]

theorem decode_encode (s : List Char) : decode (encode s) = s := by
  simpa [decode] using decodeFrom_encode_append s []

/-! ## Reading strictly -/

/-- The text that some bytes are, if they are one. -/
def decode? (bytes : List UInt8) : Option (List Char) :=
  let s := decode bytes
  if encode s = bytes then some s else none

theorem decode?_eq_some_iff {bytes : List UInt8} {s : List Char} :
    decode? bytes = some s ↔ bytes = encode s := by
  rw [decode?]
  constructor
  · intro h
    split at h
    · next hbytes => rw [← Option.some.inj h, hbytes]
    · cases h
  · rintro rfl
    simp [decode_encode]

end FilterQuery.Text.Utf8
