/-
Long query strings give deep predicates.

A query string with n + 1 checks for null is read as a chain of them, which is n levels deep. So it
is up to a client how deep the predicates are that are rendered afterwards, and no number of calls is
enough for all of them.
-/
import FilterQuery.Proofs.Digits
import FilterQuery.Proofs.RoundTrip

set_option autoImplicit false

namespace FilterQuery

open FilterQuery.BracketKey

/-- The check that a field is null whose name is a number. -/
def numberedCheck (k : Nat) : Predicate := .nullCheck .isNull (toString k)

/-- A chain of checks, of the fields from 0 to `n`. -/
def numberedChain (n : Nat) : Predicate :=
  .chain (numberedCheck 0) ((List.range n).map fun k => numberedCheck (k + 1))

/-- The query string that asks for them. -/
def numberedQuery (n : Nat) : String :=
  String.intercalate "&" ((List.range (n + 1)).map fun k => "filter[" ++ toString k ++ "]=null")

/-! ## Names -/

theorem toList_toString (k : Nat) : (toString k).toList = Nat.toDigits 10 k := by
  rw [Nat.toString_eq_repr, Nat.toList_repr]

theorem toString_injective : Function.Injective (toString : Nat → String) := by
  intro k l h
  have hdigits := congrArg String.toList h
  rw [toList_toString, toList_toString] at hdigits
  rw [← Nat.ofDigitChars_ten_toDigits (n := k), hdigits, Nat.ofDigitChars_ten_toDigits]

theorem isSegment_toString (k : Nat) : IsSegment (toString k) := by
  refine ⟨fun hempty => ?_, fun c hc => ?_⟩
  · have hdigits := toList_toString k
    rw [hempty] at hdigits
    exact Nat.toDigits_ne_nil hdigits.symm
  · rw [toList_toString] at hc
    have hdigit := Char.isDigit_iff_toNat.1 (Text.isDigit_of_mem_toDigits c hc)
    rw [isBracket, Bool.or_eq_false_iff, beq_eq_false_iff_ne, beq_eq_false_iff_ne]
    constructor <;> rintro rfl <;> exact absurd hdigit (by decide)

/-- Plain characters are written as themselves. -/
theorem Percent.encode_of_isPlain {s : List Char} (hs : ∀ c ∈ s, isPlain c = true) :
    encode s = s := by
  induction s with
  | nil => rfl
  | cons c s ih =>
      obtain ⟨hc, hs⟩ := List.forall_mem_cons.1 hs
      rw [encode, List.flatMap_cons, encodeChar, if_pos hc]
      exact congrArg (c :: ·) (ih hs)

/-! ## The chain -/

/-- What a join gathers from its parts, the chain gathers from its checks. -/
theorem gather_numberedChain {α : Type} {f : Predicate → List α}
    (hf : ∀ left right, f (.both left right) = f left ++ f right) (n : Nat) :
    f (numberedChain n) = (List.range (n + 1)).flatMap fun k => f (numberedCheck k) := by
  rw [numberedChain, Predicate.flatMap_chain hf, List.range_succ_eq_map, List.flatMap_cons,
    List.flatMap_cons, List.flatMap_map, List.flatMap_map]

theorem leaves_numberedChain (n : Nat) :
    (numberedChain n).leaves = (List.range (n + 1)).map numberedCheck := by
  rw [gather_numberedChain (f := Predicate.leaves) (fun _ _ => rfl)]
  exact List.flatMap_pure_eq_map ..

theorem leftLeaning_numberedChain (n : Nat) : (numberedChain n).LeftLeaning :=
  Predicate.LeftLeaning.chain trivial (List.forall_mem_map.2 fun _ _ => trivial)

/-- **The chain is as deep as it is long.** -/
theorem depth_numberedChain (n : Nat) : (numberedChain n).depth = n := by
  have hdepth := (leftLeaning_numberedChain n).depth_add_one
  rw [leaves_numberedChain, List.length_map, List.length_range] at hdepth
  omega

theorem isRead_numberedCheck (k : Nat) : (numberedCheck k).IsRead .standard := by
  let f : Filter := ⟨"filter", toString k, none, .one "null"⟩
  have hkind : ∀ t ∈ f.value.texts, Kind.ofValue .standard t = .null :=
    List.forall_mem_singleton.2 (by decide +kernel)
  have hfree : ∀ t ∈ f.value.texts, ',' ∉ t.toList := List.forall_mem_singleton.2 (by decide)
  let course : f.Course .standard := ⟨.null, .isNull, .null, [], hkind, rfl, rfl, rfl⟩
  exact ⟨f, course.note, course.read_eq_ok, isSegment_toString k, hfree⟩

theorem key_numberedCheck (k : Nat) :
    write Settings.standard.keyword [toString k] = "filter[" ++ toString k ++ "]" := by
  rw [write, groups, groups, String.append_empty, ← String.append_assoc, ← String.append_assoc]
  rfl

theorem nodup_keys_numberedChain (n : Nat) : ((numberedChain n).keys .standard).Nodup := by
  have hkeys : (numberedChain n).keys .standard
      = (List.range (n + 1)).map fun k => write Settings.standard.keyword [toString k] := by
    rw [gather_numberedChain (f := (·.keys .standard)) (fun _ _ => List.map_append)]
    exact List.flatMap_pure_eq_map ..
  rw [hkeys]
  refine List.Nodup.map (fun k l hkey => ?_) List.nodup_range
  rw [key_numberedCheck, key_numberedCheck, String.append_left_inj, String.append_right_inj] at hkey
  exact toString_injective hkey

theorem toQuery_numberedChain (n : Nat) :
    (numberedChain n).toQuery .standard = numberedQuery n := by
  have hparameter : ∀ k : Nat, Predicate.parameter .standard [toString k] "null".toList
      = "filter[" ++ toString k ++ "]=null" := by
    intro k
    have hplain : ∀ c ∈ (write Settings.standard.keyword [toString k]).toList,
        Percent.isPlain c = true := by
      rw [key_numberedCheck, String.toList_append, String.toList_append, toList_toString]
      simp only [List.mem_append, or_imp, forall_and]
      refine ⟨⟨List.all_eq_true.1 (by decide), fun c hc => ?_⟩, List.all_eq_true.1 (by decide)⟩
      rw [Percent.isPlain, Char.isAlphanum, Text.isDigit_of_mem_toDigits c hc, Bool.or_true,
        Bool.true_or]
    rw [Predicate.parameter, Percent.encode_of_isPlain hplain, key_numberedCheck,
      ← String.toList_inj]
    simp only [String.toList_ofList, String.toList_append, List.append_assoc]
    rfl
  have hparameters : (numberedChain n).parameters .standard
      = (List.range (n + 1)).map fun k => "filter[" ++ toString k ++ "]=null" := by
    rw [gather_numberedChain (f := (·.parameters .standard)) (fun _ _ => rfl)]
    calc
      _ = (List.range (n + 1)).map fun k =>
          Predicate.parameter .standard [toString k] "null".toList := List.flatMap_pure_eq_map ..
      _ = _ := List.map_congr_left fun k _ => hparameter k
  rw [Predicate.toQuery, hparameters, numberedQuery]

/-- **The query string is read as the chain.** -/
theorem exists_parse_numberedQuery (n : Nat) : ∃ notes,
    parse .standard (numberedQuery n)
      = .ok ({ predicate := some (numberedChain n), problems := [] }, notes) := by
  have hleaves : ∀ leaf ∈ (numberedChain n).leaves, leaf.IsRead .standard := by
    rw [leaves_numberedChain, List.forall_mem_map]
    exact fun k _ => isRead_numberedCheck k
  obtain ⟨notes, hparse⟩ := Predicate.exists_parse_toQuery Settings.standard_unambiguous hleaves
    (nodup_keys_numberedChain n)
  rw [Predicate.combine_leaves (leftLeaning_numberedChain n), toQuery_numberedChain] at hparse
  exact ⟨notes, hparse⟩

end FilterQuery
