/-
Equality of data and of problems, and how problems are filed.

Problems are compared as data are, and data carry three kinds of difference that do not count: a
number may be written as a truth value, an integer or a binary number, the sign of zero is lost, and
the entries of a record come in any order. An equality that forgives so much need not be one. It
would not be transitive if integers were rounded before they are compared with binary numbers, and
it is not even reflexive if a key stands twice in a record, because only the first of the two
entries is found again.

So `Datum.Alike` says once more, without walking over anything, which data are equal: scalars that
are the same rational number or the same altogether, lists that are so at every place, records with
the same keys and equal values under each. That it is reflexive, symmetric and transitive is then
seen at once, by an induction for each. The work is in `Datum.same_iff_alike`: the walk over two
records counts entries and looks up keys, which amounts to having the same keys exactly because none
stands twice (`Datum.same_record_iff`); and the count of smallest units says the same as rational
numbers do (`Scalar.same_iff`).

Problems are filed by three of the five columns that are compared, so equal ones are filed alike.
-/
import FilterQuery.Proofs.Fault
import FilterQuery.Proofs.Nearest
import Mathlib.Data.List.Perm.Subperm

set_option autoImplicit false

namespace FilterQuery

/-! ## Numbers -/

namespace Binary64

/-- The rational number that a finite binary number is. -/
def value? : Binary64 → Option ℚ
  | .finite negative place =>
    some ((if negative then -(unitsAt place : ℚ) else unitsAt place) / 2 ^ 1074)
  | _ => none

/-- The quantity of a finite number is its value in units. -/
theorem value?_eq_some_iff {x : Binary64} {q : ℚ} :
    x.value? = some q ↔ ∃ n : ℤ, x.quantity = .units n ∧ q = n / 2 ^ 1074 := by
  cases x with
  | finite negative place =>
      rw [value?, quantity, Option.some.injEq]
      constructor
      · rintro rfl
        refine ⟨_, rfl, ?_⟩
        push_cast
        rfl
      · rintro ⟨n, hn, rfl⟩
        cases hn
        push_cast
        rfl
  | infinite negative => simp [value?, quantity]
  | nan payload => simp [value?, quantity]

/-- So is that of a whole number, however large. -/
theorem ofInt_eq_units_iff {m : ℤ} {q : ℚ} :
    (m : ℚ) = q ↔ ∃ n : ℤ, Quantity.ofInt m = .units n ∧ q = n / 2 ^ 1074 := by
  have hunits : ((m * unitsPerOne : ℤ) : ℚ) / 2 ^ 1074 = m := by
    rw [Int.cast_mul, Int.cast_natCast, ← Decimal.unitsPerOne_cast,
      mul_div_cancel_right₀ _ Decimal.unitsPerOne_pos.ne']
  constructor
  · rintro rfl
    exact ⟨_, rfl, hunits.symm⟩
  · rintro ⟨n, hn, rfl⟩
    cases hn
    exact hunits.symm

/-- A number that is not finite has a quantity of its own. -/
theorem eq_of_quantity_eq {x y : Binary64} (hx : x.value? = none)
    (hquantity : x.quantity = y.quantity) : x = y := by
  cases x with
  | finite negative place => cases hx
  | infinite negative =>
      cases y with
      | infinite other => cases hquantity; rfl
      | _ => cases hquantity
  | nan payload =>
      cases y with
      | nan other => cases hquantity; rfl
      | _ => cases hquantity

end Binary64

/-! ## Scalars -/

namespace Scalar

variable {a b c : Scalar}

/-- The rational number that a scalar amounts to, if there is one. A truth value amounts to 0
or 1. -/
def amount? : Scalar → Option ℚ
  | .bool value => some (if value then 1 else 0)
  | .int value => some value
  | .float value => value.value?
  | _ => none

/-- Scalars that are equal: identical ones, and those that amount to the same rational number. -/
def Alike (a b : Scalar) : Prop :=
  a = b ∨ ∃ q, a.amount? = some q ∧ b.amount? = some q

/-- A scalar amounts to a number when its sense is a number of units, and to that many of them. -/
theorem amount?_eq_some_iff {q : ℚ} :
    a.amount? = some q ↔ ∃ n : ℤ, a.sense = .quantity (.units n) ∧ q = n / 2 ^ 1074 := by
  cases a with
  | null => simp [amount?, sense]
  | text t => simp [amount?, sense]
  | bool value =>
      have hvalue : amount? (.bool value) = some ((value.toInt : ℤ) : ℚ) := by
        cases value <;> simp [amount?]
      rw [hvalue, Option.some.injEq, Binary64.ofInt_eq_units_iff]
      simp only [sense, Sense.quantity.injEq]
  | int n =>
      rw [amount?, Option.some.injEq, Binary64.ofInt_eq_units_iff]
      simp only [sense, Sense.quantity.injEq]
  | float x =>
      rw [amount?, Binary64.value?_eq_some_iff]
      simp only [sense, Sense.quantity.injEq]

/-- Equal senses amount to the same. -/
theorem amount?_eq_of_sense_eq (hsense : a.sense = b.sense) : a.amount? = b.amount? := by
  refine Option.ext fun q => ?_
  rw [amount?_eq_some_iff, amount?_eq_some_iff, hsense]

/-- A scalar that amounts to no number has a sense of its own. -/
theorem eq_of_sense_eq (ha : a.amount? = none) (hsense : a.sense = b.sense) : a = b := by
  have hb : b.amount? = none := by rw [← amount?_eq_of_sense_eq hsense, ha]
  cases a with
  | null =>
      cases b with
      | null => rfl
      | _ => cases hsense
  | text t =>
      cases b with
      | text u => cases hsense; rfl
      | _ => cases hsense
  | float x =>
      cases b with
      | float y => rw [Binary64.eq_of_quantity_eq ha (Sense.quantity.inj hsense)]
      | null => cases hsense
      | text u => cases hsense
      | bool value => cases hb
      | int n => cases hb
  | bool value => cases ha
  | int n => cases ha

/-- **Scalars are equal when they are identical or amount to the same rational number.** -/
theorem same_iff : a.same b = true ↔ a.Alike b := by
  rw [same, decide_eq_true_eq]
  constructor
  · intro hsense
    cases ha : a.amount? with
    | none => exact .inl (eq_of_sense_eq ha hsense)
    | some q => exact .inr ⟨q, ha, by rw [← amount?_eq_of_sense_eq hsense, ha]⟩
  · rintro (rfl | ⟨q, ha, hb⟩)
    · rfl
    · obtain ⟨n, hn, rfl⟩ := amount?_eq_some_iff.1 ha
      obtain ⟨m, hm, hq⟩ := amount?_eq_some_iff.1 hb
      have hpos : (0 : ℚ) < 2 ^ 1074 := pow_pos two_pos _
      have hnm : n = m := Int.cast_injective ((div_left_inj' hpos.ne').1 hq)
      rw [hn, hm, hnm]

theorem Alike.symm (h : a.Alike b) : b.Alike a := by
  rcases h with rfl | ⟨q, ha, hb⟩
  · exact .inl rfl
  · exact .inr ⟨q, hb, ha⟩

theorem Alike.trans (hab : a.Alike b) (hbc : b.Alike c) : a.Alike c := by
  rcases hab with rfl | ⟨q, ha, hb⟩
  · exact hbc
  rcases hbc with rfl | ⟨r, hb', hc⟩
  · exact .inr ⟨q, ha, hb⟩
  · -- The number in the middle is one number.
    obtain rfl : q = r := Option.some.inj (hb.symm.trans hb')
    exact .inr ⟨q, ha, hc⟩

end Scalar

/-! ## Data -/

namespace Datum

variable {a b c : Datum}

/-- Data in which no key stands twice in one record. -/
inductive Keyed : Datum → Prop where
  | scalar (value : Scalar) : Keyed (.scalar value)
  | list {items : List Datum} (hitems : ∀ d ∈ items, Keyed d) : Keyed (.list items)
  | record {entries : List (String × Datum)} (hkeys : (entries.map Prod.fst).Nodup)
      (hentries : ∀ entry ∈ entries, Keyed entry.2) : Keyed (.record entries)

@[simp] theorem keyed_scalar (v : Scalar) : Keyed (.scalar v) := .scalar v

@[simp] theorem keyed_list_iff {items : List Datum} :
    Keyed (.list items) ↔ ∀ d ∈ items, Keyed d := by
  refine ⟨?_, .list⟩
  rintro (_ | hitems | _)
  exact hitems

@[simp] theorem keyed_record_iff {entries : List (String × Datum)} :
    Keyed (.record entries) ↔
      (entries.map Prod.fst).Nodup ∧ ∀ entry ∈ entries, Keyed entry.2 := by
  refine ⟨?_, fun h => .record h.1 h.2⟩
  rintro (_ | _ | ⟨hkeys, hentries⟩)
  exact ⟨hkeys, hentries⟩

/-- Data that are equal: equal scalars, lists that are equal at every place, and records with the
same keys and equal values under each of them. -/
inductive Alike : Datum → Datum → Prop where
  | scalar {v w : Scalar} (h : v.Alike w) : Alike (.scalar v) (.scalar w)
  | list {as bs : List Datum} (hlength : as.length = bs.length)
      (hitems : ∀ (i : Nat) (a b : Datum), as[i]? = some a → bs[i]? = some b → Alike a b) :
      Alike (.list as) (.list bs)
  | record {as bs : List (String × Datum)}
      (hkeys : ∀ key, key ∈ as.map Prod.fst ↔ key ∈ bs.map Prod.fst)
      (hvalues : ∀ key a b, (key, a) ∈ as → (key, b) ∈ bs → Alike a b) :
      Alike (.record as) (.record bs)

theorem alike_scalar_iff {v w : Scalar} : Alike (.scalar v) (.scalar w) ↔ v.Alike w := by
  refine ⟨?_, .scalar⟩
  rintro (h | _ | _)
  exact h

theorem alike_list_iff {as bs : List Datum} :
    Alike (.list as) (.list bs) ↔ as.length = bs.length ∧
      ∀ (i : Nat) (a b : Datum), as[i]? = some a → bs[i]? = some b → Alike a b := by
  refine ⟨?_, fun h => .list h.1 h.2⟩
  rintro (_ | ⟨hlength, hitems⟩ | _)
  exact ⟨hlength, hitems⟩

theorem alike_record_iff {as bs : List (String × Datum)} :
    Alike (.record as) (.record bs) ↔
      (∀ key, key ∈ as.map Prod.fst ↔ key ∈ bs.map Prod.fst) ∧
        ∀ key a b, (key, a) ∈ as → (key, b) ∈ bs → Alike a b := by
  refine ⟨?_, fun h => .record h.1 h.2⟩
  rintro (_ | _ | ⟨hkeys, hvalues⟩)
  exact ⟨hkeys, hvalues⟩

/-! ### The relation is an equivalence -/

theorem Keyed.alike_self (ha : a.Keyed) : a.Alike a := by
  induction ha with
  | scalar value => exact .scalar (.inl rfl)
  | list _ ih =>
      refine .list rfl fun i a b ha hb => ?_
      obtain rfl : a = b := Option.some.inj (ha.symm.trans hb)
      exact ih a (List.mem_of_getElem? ha)
  | record hkeys _ ih =>
      refine .record (fun _ => Iff.rfl) fun key a b ha hb => ?_
      -- Both values are the one that stands under the key.
      have hlookup := Params.lookup_of_mem hkeys ha
      obtain rfl : a = b := Option.some.inj (hlookup.symm.trans (Params.lookup_of_mem hkeys hb))
      exact ih (key, a) ha

theorem Alike.symm (h : a.Alike b) : b.Alike a := by
  induction h with
  | scalar h => exact .scalar h.symm
  | list hlength _ ih => exact .list hlength.symm fun i a b ha hb => ih i b a hb ha
  | record hkeys _ ih =>
      exact .record (fun key => (hkeys key).symm) fun key a b ha hb => ih key b a hb ha

theorem Alike.trans (hab : a.Alike b) (hbc : b.Alike c) : a.Alike c := by
  induction hab generalizing c with
  | scalar hab =>
      cases hbc with
      | scalar hbc => exact .scalar (hab.trans hbc)
  | @list as bs hlength _ ih =>
      cases hbc with
      | @list _ cs hlength' hitems' =>
          refine .list (hlength.trans hlength') fun i a c ha hc => ?_
          obtain ⟨b, hb⟩ : ∃ b, bs[i]? = some b := by
            have hi : i < bs.length := hlength ▸ (List.getElem?_eq_some_iff.1 ha).1
            exact ⟨bs[i], List.getElem?_eq_getElem hi⟩
          exact ih i a b ha hb (hitems' i b c hb hc)
  | @record as bs hkeys _ ih =>
      cases hbc with
      | @record _ cs hkeys' hvalues' =>
          refine .record (fun key => (hkeys key).trans (hkeys' key)) fun key a c ha hc => ?_
          obtain ⟨⟨key', b⟩, hb, rfl⟩ := List.mem_map.1 ((hkeys key).1 (List.mem_map_of_mem ha))
          exact ih key' a b ha hb (hvalues' key' b c hb hc)

/-! ### What the walk finds -/

/-- The walk over two lists compares what stands at the same place. -/
theorem sameItems_iff {as bs : List Datum} :
    sameItems as bs = true ↔ as.length = bs.length ∧
      ∀ (i : Nat) (a b : Datum), as[i]? = some a → bs[i]? = some b → a.same b = true := by
  induction as generalizing bs with
  | nil =>
      cases bs with
      | nil => simp [sameItems]
      | cons b bs => simp [sameItems]
  | cons a as ih =>
      cases bs with
      | nil => simp [sameItems]
      | cons b bs =>
          rw [sameItems, Bool.and_eq_true, ih, List.length_cons, List.length_cons,
            Nat.add_right_cancel_iff]
          constructor
          · rintro ⟨hfirst, hlength, hrest⟩
            refine ⟨hlength, fun i x y hx hy => ?_⟩
            cases i with
            | zero => cases hx; cases hy; exact hfirst
            | succ i => exact hrest i x y hx hy
          · rintro ⟨hlength, hall⟩
            exact ⟨hall 0 a b rfl rfl, hlength, fun i => hall (i + 1)⟩

/-- The walk over the entries of a record looks up each key. -/
theorem sameEntries_iff {as bs : List (String × Datum)} :
    sameEntries as bs = true ↔
      ∀ e ∈ as, ∃ b, bs.lookup e.1 = some b ∧ e.2.same b = true := by
  induction as with
  | nil => simp [sameEntries]
  | cons e as ih =>
      rw [sameEntries, Bool.and_eq_true, ih, List.forall_mem_cons]
      cases bs.lookup e.1 <;> simp

/-- Records that are walked over successfully have the same keys: each key of one is a key of the
other, none is counted twice, and there are equally many. -/
theorem mem_keys_iff_of_sameEntries {as bs : List (String × Datum)}
    (has : (as.map Prod.fst).Nodup) (hlength : as.length = bs.length)
    (hsame : sameEntries as bs = true) (key : String) :
    key ∈ as.map Prod.fst ↔ key ∈ bs.map Prod.fst := by
  have hsubset : as.map Prod.fst ⊆ bs.map Prod.fst := by
    intro other hother
    obtain ⟨e, he, rfl⟩ := List.mem_map.1 hother
    obtain ⟨b, hlookup, -⟩ := sameEntries_iff.1 hsame e he
    exact List.mem_map.2 ⟨(e.1, b), Params.mem_of_lookup hlookup, rfl⟩
  have hle : (bs.map Prod.fst).length ≤ (as.map Prod.fst).length := by
    rw [List.length_map, List.length_map, hlength]
  exact ((List.subperm_of_subset has hsubset).perm_of_length_le hle).mem_iff

/-- **Records without repeated keys are equal when they have the same keys and equal values under
each of them**, in whatever order. -/
theorem same_record_iff {as bs : List (String × Datum)} (has : (as.map Prod.fst).Nodup)
    (hbs : (bs.map Prod.fst).Nodup) :
    (record as).same (record bs) = true ↔
      (∀ key, key ∈ as.map Prod.fst ↔ key ∈ bs.map Prod.fst) ∧
        ∀ key a b, (key, a) ∈ as → (key, b) ∈ bs → a.same b = true := by
  rw [same, Bool.and_eq_true, decide_eq_true_eq]
  constructor
  · rintro ⟨hlength, hsame⟩
    refine ⟨mem_keys_iff_of_sameEntries has hlength hsame, fun key a b ha hb => ?_⟩
    obtain ⟨b', hlookup, hab⟩ := sameEntries_iff.1 hsame (key, a) ha
    obtain rfl : b' = b := Option.some.inj (hlookup.symm.trans (Params.lookup_of_mem hbs hb))
    exact hab
  · rintro ⟨hkeys, hvalues⟩
    constructor
    · have hperm := (List.perm_ext_iff_of_nodup has hbs).2 hkeys
      have hlength := hperm.length_eq
      rwa [List.length_map, List.length_map] at hlength
    · refine sameEntries_iff.2 fun e he => ?_
      obtain ⟨⟨key, b⟩, hb, hkey⟩ := List.mem_map.1 ((hkeys e.1).1 (List.mem_map_of_mem he))
      cases hkey
      exact ⟨b, Params.lookup_of_mem hbs hb, hvalues e.1 e.2 b he hb⟩

/-- **Data are equal exactly when they are alike**, if no key stands twice in a record. -/
theorem same_iff_alike (ha : a.Keyed) (hb : b.Keyed) : a.same b = true ↔ a.Alike b := by
  -- Data of different forms are neither, so in each case one form of `b` is left to look at.
  induction ha generalizing b with
  | scalar v =>
      cases hb with
      | scalar w => rw [same, Scalar.same_iff, alike_scalar_iff]
      | _ => exact iff_of_false (by simp [same]) (by rintro ⟨⟩)
  | list _ ih =>
      cases hb with
      | list hbs =>
          rw [same, sameItems_iff, alike_list_iff]
          refine and_congr_right fun _ => forall₅_congr fun i a b ha hb => ?_
          exact ih a (List.mem_of_getElem? ha) (hbs b (List.mem_of_getElem? hb))
      | _ => exact iff_of_false (by simp [same]) (by rintro ⟨⟩)
  | record has _ ih =>
      cases hb with
      | record hbs hvalues =>
          rw [same_record_iff has hbs, alike_record_iff]
          refine and_congr_right fun _ => forall₅_congr fun key a b ha hb => ?_
          exact ih (key, a) ha (hvalues (key, b) hb)
      | _ => exact iff_of_false (by simp [same]) (by rintro ⟨⟩)

end Datum

/-! ## Problems -/

/-- Kinds of problems are told apart by their names. -/
theorem ProblemKind.name_injective : Function.Injective ProblemKind.name := by
  intro kind other h
  have hname := ofName?_name kind
  rw [h, ofName?_name] at hname
  exact (Option.some.inj hname).symm

namespace Problem

variable {p q : Problem}

/-- **Problems are equal when they are of one kind, filed alike and about equal values.** -/
theorem same_iff : p.same q = true ↔
    p.kind = q.kind ∧ p.filedUnder = q.filedUnder ∧ p.value.same q.value = true := by
  simp [same, filedUnder, and_assoc]

theorem same_column (s t : Option String) : (column s).same (column t) = decide (s = t) := by
  cases s with
  | none =>
      cases t with
      | none => rfl
      | some t => rfl
  | some s =>
      cases t with
      | none => rfl
      | some t =>
          rw [column, column, Option.elim_some, Option.elim_some, Datum.same_text,
            decide_eq_decide, Option.some.injEq]

/-- **Comparing problems is comparing the records that they are handed on as.** -/
theorem same_record (p q : Problem) : p.toDatum.same q.toDatum = p.same q := by
  have hkind : decide (p.kind.map ProblemKind.name = q.kind.map ProblemKind.name)
      = decide (p.kind = q.kind) :=
    decide_eq_decide.2 (Option.map_injective ProblemKind.name_injective).eq_iff
  rw [toDatum, toDatum, Datum.same]
  -- Each column is found under its own name.
  simp only [Datum.sameEntries, List.lookup_cons, String.reduceBEq, beq_self_eq_true]
  rw [same_column, same_column, same_column, Datum.same_text, hkind, same]
  simp [Bool.and_assoc]

/-- Reading reports problems about texts and lists of texts, so no key stands twice there. -/
theorem keyed_of_parse {settings : Settings} {query : String} {params : Option Params}
    {outcome : Outcome} {notes : List Note}
    (hparse : parse settings query params = .ok (outcome, notes)) (hp : p ∈ outcome.problems) :
    p.value.Keyed := by
  obtain ⟨key, f, refusal, -, -, -, rfl⟩ := find?_of_parse hparse hp
  cases hvalue : f.value with
  | one text => exact .scalar _
  | many texts =>
      rw [ofRefusal, ParamValue.toDatum, Datum.texts, Datum.keyed_list_iff]
      exact List.forall_mem_map.2 fun t _ => .scalar _

theorem same_iff_alike (hp : p.value.Keyed) (hq : q.value.Keyed) : p.same q = true ↔
    p.kind = q.kind ∧ p.filedUnder = q.filedUnder ∧ p.value.Alike q.value := by
  rw [same_iff, Datum.same_iff_alike hp hq]

/-- **Equality of problems is an equivalence that filing respects.** Among problems about data in
which no key stands twice in one record it is reflexive, symmetric and transitive, and means that
the kinds and the columns that problems are filed under are identical and the values are equal. It
is the equality of the records that problems are handed on as, and equal problems are always filed
alike. -/
theorem equivalence_same :
    Equivalence (fun p q : { p : Problem // p.value.Keyed } => p.val.same q.val = true) ∧
      (∀ p q : Problem, p.value.Keyed → q.value.Keyed → (p.same q = true ↔
        p.kind = q.kind ∧ p.filedUnder = q.filedUnder ∧ p.value.Alike q.value)) ∧
      ∀ p q : Problem, p.toDatum.same q.toDatum = p.same q ∧
        (p.same q = true → p.filedUnder = q.filedUnder) := by
  refine ⟨⟨?refl, ?symm, ?trans⟩, fun p q hp hq => same_iff_alike hp hq, fun p q => ?filed⟩
  case refl =>
    rintro ⟨p, hp⟩
    exact (same_iff_alike hp hp).2 ⟨rfl, rfl, hp.alike_self⟩
  case symm =>
    rintro ⟨p, hp⟩ ⟨q, hq⟩ hpq
    obtain ⟨hkind, hfiled, hvalue⟩ := (same_iff_alike hp hq).1 hpq
    exact (same_iff_alike hq hp).2 ⟨hkind.symm, hfiled.symm, hvalue.symm⟩
  case trans =>
    rintro ⟨p, hp⟩ ⟨q, hq⟩ ⟨r, hr⟩ hpq hqr
    obtain ⟨hkind, hfiled, hvalue⟩ := (same_iff_alike hp hq).1 hpq
    obtain ⟨hkind', hfiled', hvalue'⟩ := (same_iff_alike hq hr).1 hqr
    exact (same_iff_alike hp hr).2
      ⟨hkind.trans hkind', hfiled.trans hfiled', hvalue.trans hvalue'⟩
  case filed => exact ⟨same_record p q, fun h => (same_iff.1 h).2.1⟩

/-- Three problems that are equal, though the first entry of each value is the second of the next
one, the zeros have both signs, and one is written as a truth value, a binary number and an integer;
and an integer that differs from the nearest binary number. -/
theorem equivalence_same_of_spellings :
    let large : Datum := .scalar (.int 9007199254740993)
    let negativeZero : Binary64 := .finite true ⟨0, by decide⟩
    let about (value : Datum) : Problem := { message := "m", key := some "k", value := value }
    let p := about (.record [("a", .scalar (.float .zero)),
      ("b", .list [.scalar (.bool true), large])])
    let q := about (.record [("b", .list [.scalar (.float (.ofRatio false 1 1)), large]),
      ("a", .scalar (.float negativeZero))])
    let r := about (.record [("a", .scalar (.bool false)), ("b", .list [.scalar (.int 1), large])])
    let s := about (.record [("a", .scalar (.bool false)),
      ("b", .list [.scalar (.int 1), .scalar (.float (.ofRatio false 9007199254740993 1))])])
    p.value.Keyed ∧ q.value.Keyed ∧ r.value.Keyed ∧ p.same q = true ∧ q.same r = true ∧
      p.same r = true ∧ r.same p = true ∧ p.filedUnder = r.filedUnder ∧ p ≠ r ∧
      r.same s = false := by
  intro large negativeZero about p q r s
  have hp : p.value.Keyed := by simp [p, about, large]
  have hq : q.value.Keyed := by simp [q, about, large]
  have hr : r.value.Keyed := by simp [r, about, large]
  have hpq : p.same q = true := by decide +kernel
  have hqr : q.same r = true := by decide +kernel
  obtain ⟨hequivalence, -, hall⟩ := equivalence_same
  have hpr : p.same r = true :=
    hequivalence.trans (x := ⟨p, hp⟩) (y := ⟨q, hq⟩) (z := ⟨r, hr⟩) hpq hqr
  have hrp : r.same p = true := hequivalence.symm (x := ⟨p, hp⟩) (y := ⟨r, hr⟩) hpr
  exact ⟨hp, hq, hr, hpq, hqr, hpr, hrp, (hall p r).2 hpr, by decide +kernel, by decide +kernel⟩

end Problem

end FilterQuery
