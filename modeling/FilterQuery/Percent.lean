/-
Percent encoding, the spelling of a text inside a query string.

Written: letters, digits and `_ . - ~` stand for themselves, and so do the brackets and the comma,
because keys such as `filter[age]` and lists such as `1,2` should stay legible. Every other
character is spelled by its UTF-8 bytes, each as a percent sign and two upper-case hexadecimal
digits.

Read: a plus sign is a blank, a percent sign with two hexadecimal digits is a byte, and everything
else, a percent sign without digits included, is itself. The bytes are then read as UTF-8, which
never fails. Reading therefore accepts much more than writing produces.

Main statement: what was written is read back (`decode_encode`).
-/
import FilterQuery.Text.Quoted
import FilterQuery.Text.Utf8

set_option autoImplicit false

namespace FilterQuery.Percent

open FilterQuery.Text

/-! ## Writing -/

/-- The characters that stand for themselves. -/
def isPlain (c : Char) : Bool :=
  c.isAlphanum || ['_', '.', '-', '~', '[', ']', ','].contains c

/-- A byte as a percent sign and two hexadecimal digits. -/
def encodeByte (b : UInt8) : List Char :=
  ['%', (hexDigit (b.toNat / 16)).toUpper, (hexDigit (b.toNat % 16)).toUpper]

def encodeChar (c : Char) : List Char :=
  if isPlain c then [c] else (Utf8.encodeChar c).flatMap encodeByte

/-- The spelling of a text. -/
def encode (s : List Char) : List Char :=
  s.flatMap encodeChar

/-! ## Reading -/

/-- The value of a hexadecimal digit, of either case. -/
def hexValue? (c : Char) : Option Nat :=
  if c.isDigit then some (c.toNat - '0'.toNat)
  else if 'a' ≤ c && c ≤ 'f' then some (c.toNat - 'a'.toNat + 10)
  else if 'A' ≤ c && c ≤ 'F' then some (c.toNat - 'A'.toNat + 10)
  else none

/-- The bytes that a spelling stands for. -/
def toBytes : List Char → List UInt8
  | [] => []
  | '%' :: high :: low :: rest =>
    match hexValue? high, hexValue? low with
    | some h, some l => .ofNat (16 * h + l) :: toBytes rest
    | _, _ => Utf8.encodeChar '%' ++ toBytes (high :: low :: rest)
  | c :: rest => Utf8.encodeChar c ++ toBytes rest

/-- The text that a spelling stands for, a plus sign being an ordinary character. -/
def decodeEscapes (s : List Char) : List Char :=
  Utf8.decode (toBytes s)

/-- A plus sign stands for a blank. -/
def plusToBlank (c : Char) : Char :=
  if c = '+' then ' ' else c

/-- The text that a spelling stands for. -/
def decode (s : List Char) : List Char :=
  decodeEscapes (s.map plusToBlank)

/-! ## Reading what was written -/

/-- The upper-case digit of a number below sixteen is read back as that number. -/
theorem hexValue?_hexDigit {n : Nat} (h : n < 16) : hexValue? (hexDigit n).toUpper = some n :=
  (by decide : ∀ n : Fin 16, hexValue? (hexDigit n.val).toUpper = some n.val) ⟨n, h⟩

theorem toBytes_encodeByte_append (b : UInt8) (rest : List Char) :
    toBytes (encodeByte b ++ rest) = b :: toBytes rest := by
  have := b.toNat_lt
  simp only [encodeByte, List.cons_append, List.nil_append, toBytes,
    hexValue?_hexDigit (show b.toNat / 16 < 16 by omega),
    hexValue?_hexDigit (show b.toNat % 16 < 16 by omega)]
  rw [show 16 * (b.toNat / 16) + b.toNat % 16 = b.toNat by omega, UInt8.ofNat_toNat]

theorem toBytes_flatMap_encodeByte_append (bs : List UInt8) (rest : List Char) :
    toBytes (bs.flatMap encodeByte ++ rest) = bs ++ toBytes rest := by
  induction bs with
  | nil => rfl
  | cons b bs ih =>
    rw [List.flatMap_cons, List.append_assoc, toBytes_encodeByte_append, ih, List.cons_append]

theorem isPlain_percent : isPlain '%' = false := by decide

theorem isPlain_plus : isPlain '+' = false := by decide

theorem toBytes_encodeChar_append (c : Char) (rest : List Char) :
    toBytes (encodeChar c ++ rest) = Utf8.encodeChar c ++ toBytes rest := by
  unfold encodeChar
  split
  · next h =>
    have : c ≠ '%' := by rintro rfl; simp [isPlain_percent] at h
    rw [List.cons_append, List.nil_append, toBytes]
    rintro _ _ _ rfl; exact absurd rfl this
  · exact toBytes_flatMap_encodeByte_append _ _

theorem toBytes_encode (s : List Char) : toBytes (encode s) = Utf8.encode s := by
  induction s with
  | nil => rfl
  | cons c s ih =>
    rw [encode, List.flatMap_cons, toBytes_encodeChar_append]
    change _ ++ toBytes (encode s) = _
    rw [ih]; rfl

/-- Only plain characters and percent signs are written. -/
theorem isPlain_or_percent_of_mem_encode {s : List Char} {c : Char} (h : c ∈ encode s) :
    isPlain c = true ∨ c = '%' := by
  have digit : ∀ n : Fin 16, isPlain (hexDigit n.val).toUpper = true := by decide
  obtain ⟨d, -, h⟩ := List.mem_flatMap.1 h
  unfold encodeChar at h
  split at h
  · simp_all
  · obtain ⟨b, -, h⟩ := List.mem_flatMap.1 h
    have := b.toNat_lt
    simp only [encodeByte, List.mem_cons, List.not_mem_nil, or_false] at h
    rcases h with rfl | rfl | rfl
    · exact .inr rfl
    · exact .inl (digit ⟨b.toNat / 16, by omega⟩)
    · exact .inl (digit ⟨b.toNat % 16, by omega⟩)

theorem decode_encode (s : List Char) : decode (encode s) = s := by
  have : (encode s).map plusToBlank = encode s := by
    conv => rhs; rw [← List.map_id (encode s)]
    refine List.map_congr_left fun c hc => ?_
    have : c ≠ '+' := by
      rintro rfl
      have := isPlain_or_percent_of_mem_encode hc
      simp [isPlain_plus] at this
    simp [plusToBlank, this]
  rw [decode, this, decodeEscapes, toBytes_encode, Utf8.decode_encode]

end FilterQuery.Percent
