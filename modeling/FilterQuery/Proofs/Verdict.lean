/-
The verdict on one filter.

Reading a filter goes through a kind, an operator, a check and a translation, and each of them can
refuse. Which refusal a client sees is settled by their order, and what is built in the end by two
tables, so no single function says what a filter comes to. `Verdict` does: one case for each refusal
and one for each form of condition, in terms of what the filter holds. Its values differ in kind or
share one; its operator names a comparison, names none or is not there; its value is a list or not.

The cases leave nothing out (`exists_verdict`), and each of them is what reading gives
(`Verdict.map_fst_read`). So there is exactly one verdict on a filter that has a value, and reading
gives it (`existsUnique_verdict`). That the name of the check for null is no name of a comparison
needs no rule of its own: as an operator it is refused like any other text.
-/
import FilterQuery.Proofs.Suits

set_option autoImplicit false

namespace FilterQuery

open FilterQuery.Text

/-! ## Naming a comparison -/

namespace Comparison

/-- Whether a text names a comparison: without the blanks around it and in lower case, it is the
token. -/
def IsNamedBy (op : Comparison) (token : String) : Prop :=
  lower (trim token.toList) = op.token.toList

/-- **A text is read as the comparison that it names.** -/
theorem ofToken?_eq_some_iff {token : String} {op : Comparison} :
    ofToken? token = some op ↔ op.IsNamedBy token := by
  unfold ofToken? IsNamedBy
  constructor
  · intro h
    have hfound := List.find?_some h
    exact (of_decide_eq_true hfound).symm
  · intro h
    -- no two tokens are the same, so the first comparison found is the one named
    rw [h]
    cases op <;> decide

theorem ofToken?_eq_none_iff {token : String} :
    ofToken? token = none ↔ ∀ op : Comparison, ¬ op.IsNamedBy token := by
  rw [Option.eq_none_iff_forall_ne_some]
  exact forall_congr' fun op => not_congr ofToken?_eq_some_iff

end Comparison

namespace Filter

variable {settings : Settings} {f : Filter}

/-! ## What there is to go by -/

/-- Whether a kind is the kind of every value of a filter. -/
def Shares (settings : Settings) (f : Filter) (kind : Kind) : Prop :=
  ∀ t ∈ f.value.texts, Kind.ofValue settings t = kind

/-- Whether a filter has an operator that names a comparison. -/
def Asks (f : Filter) (op : Comparison) : Prop :=
  ∃ token, f.operator = some token ∧ op.IsNamedBy token

/-- The comparison meant without an operator: membership for a list, by substring for a string, and
equality for any other value. -/
def usual (isList : Bool) (kind : Kind) : Comparison :=
  if isList then .oneOf else if kind = .string then .like else .equal

/-- Whether a filter with values of a kind means a comparison: it asks for it, or it has no operator
and the comparison is the usual one. -/
def Means (f : Filter) (kind : Kind) (op : Comparison) : Prop :=
  f.Asks op ∨ f.operator = none ∧ op = usual f.value.isList kind

/-! ## The verdict -/

/-- What a filter comes to: a refusal or a condition. -/
inductive Verdict (settings : Settings) (f : Filter) : Except Refusal Predicate → Prop
  /-- Two values differ in kind. -/
  | mixed {t u : String} (ht : t ∈ f.value.texts) (hu : u ∈ f.value.texts)
      (hdiffer : Kind.ofValue settings t ≠ Kind.ofValue settings u) :
      Verdict settings f (.error .mixedKinds)
  /-- The operator names no comparison. -/
  | unknown {kind : Kind} {token : String} (hkind : f.Shares settings kind)
      (hoperator : f.operator = some token) (hnone : ∀ op : Comparison, ¬ op.IsNamedBy token) :
      Verdict settings f (.error (.unknownOperator token))
  /-- A list is compared otherwise than by membership. -/
  | list {kind : Kind} {op : Comparison} (hkind : f.Shares settings kind) (hasks : f.Asks op)
      (hlist : f.value.isList = true) (hset : op.isSet = false) :
      Verdict settings f (.error (.listWithScalarOperator (.comparison op)))
  /-- Null is compared by order or by substring. -/
  | null {op : Comparison} (hkind : f.Shares settings .null) (hasks : f.Asks op)
      (hone : f.value.isList = false) (hop : op.isOrdering = true ∨ op = .like) :
      Verdict settings f (.error (.nullWithOperator (.comparison op)))
  /-- A number is compared by substring. -/
  | number (hkind : f.Shares settings .number) (hasks : f.Asks .like)
      (hone : f.value.isList = false) :
      Verdict settings f (.error (.numberWithSubstring (.comparison .like)))
  /-- A date is compared by substring. -/
  | date (hkind : f.Shares settings .date) (hasks : f.Asks .like)
      (hone : f.value.isList = false) :
      Verdict settings f (.error (.dateWithSubstring (.comparison .like)))
  /-- To equal null is to be null. -/
  | isNull (hkind : f.Shares settings .null) (hone : f.value.isList = false)
      (hmeans : f.Means .null .equal) : Verdict settings f (.ok (.nullCheck .isNull f.field))
  /-- Not to equal null is not to be null. -/
  | isNotNull (hkind : f.Shares settings .null) (hone : f.value.isList = false)
      (hasks : f.Asks .notEqual) : Verdict settings f (.ok (.nullCheck .isNotNull f.field))
  /-- A comparison that suits the values is made with them, read as values of their kind. -/
  | comparison {kind : Kind} {op : Comparison} {first : Scalar} {rest : List Scalar}
      (hkind : f.Shares settings kind) (hmeans : f.Means kind op)
      (hsuits : (Relation.comparison op).Suits kind f.value.isList)
      (hread : kind.read f.value.texts = .ok (first :: rest)) :
      Verdict settings f (.ok (.onField settings f.field (.comparison op) first rest))

/-! ## Every filter has a verdict -/

/-- The verdicts on a filter that has no operator: it is a null check or the usual comparison. -/
theorem exists_verdict_of_none {kind : Kind} {first : Scalar} {rest : List Scalar}
    (hkind : f.Shares settings kind) (hread : kind.read f.value.texts = .ok (first :: rest))
    (hoperator : f.operator = none) : ∃ r, f.Verdict settings r := by
  -- the usual comparison suits whatever there is, a single null apart
  have hmeans : f.Means kind (usual f.value.isList kind) := .inr ⟨hoperator, rfl⟩
  by_cases hlist : f.value.isList = true
  · rw [hlist] at hmeans
    exact ⟨_, .comparison hkind hmeans (.inl rfl) hread⟩
  rw [Bool.not_eq_true] at hlist
  rw [hlist] at hmeans
  by_cases hnull : kind = .null
  · subst hnull
    exact ⟨_, .isNull hkind hlist hmeans⟩
  · -- by substring is the usual comparison of strings only
    refine ⟨_, .comparison hkind hmeans (.inr ⟨hlist, hnull, ?_⟩) hread⟩
    intro hlike
    by_contra hstring
    simp [usual, hstring] at hlike

/-- The verdicts on a single null that is compared by an operator other than membership. -/
theorem exists_verdict_of_null {op : Comparison} (hkind : f.Shares settings .null)
    (hasks : f.Asks op) (hone : f.value.isList = false) (hset : op.isSet = false) :
    ∃ r, f.Verdict settings r := by
  cases op with
  | equal => exact ⟨_, .isNull hkind hone (.inl hasks)⟩
  | notEqual => exact ⟨_, .isNotNull hkind hone hasks⟩
  | oneOf => cases hset
  | noneOf => cases hset
  | greater => exact ⟨_, .null hkind hasks hone (.inl rfl)⟩
  | atLeast => exact ⟨_, .null hkind hasks hone (.inl rfl)⟩
  | less => exact ⟨_, .null hkind hasks hone (.inl rfl)⟩
  | atMost => exact ⟨_, .null hkind hasks hone (.inl rfl)⟩
  | like => exact ⟨_, .null hkind hasks hone (.inr rfl)⟩

/-- The verdicts on a filter that asks for a comparison. -/
theorem exists_verdict_of_asks {kind : Kind} {op : Comparison} {first : Scalar}
    {rest : List Scalar} (hkind : f.Shares settings kind)
    (hread : kind.read f.value.texts = .ok (first :: rest)) (hasks : f.Asks op) :
    ∃ r, f.Verdict settings r := by
  by_cases hset : op.isSet = true
  · -- membership is for any values
    exact ⟨_, .comparison hkind (.inl hasks) (.inl hset) hread⟩
  rw [Bool.not_eq_true] at hset
  by_cases hlist : f.value.isList = true
  · exact ⟨_, .list hkind hasks hlist hset⟩
  rw [Bool.not_eq_true] at hlist
  by_cases hlike : op = .like
  · -- by substring only strings are compared
    subst hlike
    cases kind with
    | null => exact exists_verdict_of_null hkind hasks hlist hset
    | number => exact ⟨_, .number hkind hasks hlist⟩
    | date => exact ⟨_, .date hkind hasks hlist⟩
    | string =>
        have hsuits : (Relation.comparison .like).Suits .string f.value.isList :=
          .inr ⟨hlist, by decide, fun _ => rfl⟩
        exact ⟨_, .comparison hkind (.inl hasks) hsuits hread⟩
  · by_cases hnull : kind = .null
    · subst hnull
      exact exists_verdict_of_null hkind hasks hlist hset
    · have hsuits : (Relation.comparison op).Suits kind f.value.isList :=
        .inr ⟨hlist, hnull, fun h => absurd h hlike⟩
      exact ⟨_, .comparison hkind (.inl hasks) hsuits hread⟩

/-- **Every filter that has a value has a verdict.** -/
theorem exists_verdict (settings : Settings) (hne : f.value.texts ≠ []) :
    ∃ r, f.Verdict settings r := by
  obtain ⟨t, ht⟩ := List.exists_mem_of_ne_nil _ hne
  by_cases hkind : f.Shares settings (Kind.ofValue settings t)
  swap
  · -- some value is not of the kind of this one
    simp only [Shares, not_forall] at hkind
    obtain ⟨u, hu, hdiffer⟩ := hkind
    exact ⟨_, .mixed hu ht hdiffer⟩
  obtain ⟨first, rest, hread⟩ := exists_values hne hkind
  cases hoperator : f.operator with
  | none => exact exists_verdict_of_none hkind hread hoperator
  | some token =>
      by_cases hnamed : ∃ op : Comparison, op.IsNamedBy token
      · obtain ⟨op, hop⟩ := hnamed
        exact exists_verdict_of_asks hkind hread ⟨token, hoperator, hop⟩
      · exact ⟨_, .unknown hkind hoperator (not_exists.1 hnamed)⟩

/-! ## Reading gives the verdict -/

/-- An operator that names a comparison is resolved to it. -/
theorem resolve_of_asks {op : Comparison} (hasks : f.Asks op) (kind : Kind) :
    resolve f.operator f.value.isList kind = .ok (.comparison op) := by
  obtain ⟨token, hoperator, hnamed⟩ := hasks
  rw [hoperator, resolve, Comparison.ofToken?_eq_some_iff.2 hnamed]

/-- What a filter means is what its operator is resolved to, a single null without an operator
apart. -/
theorem resolve_of_means {kind : Kind} {op : Comparison} (hmeans : f.Means kind op)
    (hnull : f.value.isList = true ∨ kind ≠ .null) :
    resolve f.operator f.value.isList kind = .ok (.comparison op) := by
  rcases hmeans with hasks | ⟨hoperator, rfl⟩
  · exact resolve_of_asks hasks kind
  · rw [hoperator]
    by_cases hlist : f.value.isList = true
    · rw [hlist]
      rfl
    · rw [Bool.not_eq_true] at hlist
      rw [hlist]
      cases kind with
      | null => exact absurd rfl (hnull.resolve_left (by simp [hlist]))
      | number => rfl
      | date => rfl
      | string => rfl

/-- So is a comparison that suits the values, whatever they are. -/
theorem resolve_of_suits {kind : Kind} {op : Comparison} (hmeans : f.Means kind op)
    (hsuits : (Relation.comparison op).Suits kind f.value.isList) :
    resolve f.operator f.value.isList kind = .ok (.comparison op) := by
  rcases hsuits with hset | ⟨-, hnull, -⟩
  swap
  · exact resolve_of_means hmeans (.inr hnull)
  by_cases hlist : f.value.isList = true
  · exact resolve_of_means hmeans (.inl hlist)
  rw [Bool.not_eq_true] at hlist
  rcases hmeans with hasks | ⟨-, rfl⟩
  · exact resolve_of_asks hasks kind
  · -- the usual comparison of a single value is not by membership
    rw [hlist] at hset
    cases kind <;> cases hset

/-- A refusal of the operator is the refusal of the filter. -/
theorem read_of_not_resolved {kind : Kind} {refusal : Refusal} (hne : f.value.texts ≠ [])
    (hkind : f.Shares settings kind)
    (hresolve : resolve f.operator f.value.isList kind = .error refusal) :
    f.read settings = .error (.refused refusal) := by
  obtain ⟨first, rest, hread⟩ := exists_values hne hkind
  rw [read_of_shared ((Kind.shared?_eq_some_iff hne).2 hkind) hread, hresolve]

/-- So is a mismatch of the comparison that a filter asks for and its values. -/
theorem read_of_mismatch {kind : Kind} {op : Comparison} {refusal : Refusal}
    (hne : f.value.texts ≠ []) (hkind : f.Shares settings kind) (hasks : f.Asks op)
    (hmismatch : mismatch? (.comparison op) f.value.isList kind = some refusal) :
    f.read settings = .error (.refused refusal) := by
  obtain ⟨first, rest, hread⟩ := exists_values hne hkind
  rw [read_of_shared ((Kind.shared?_eq_some_iff hne).2 hkind) hread, resolve_of_asks hasks kind]
  dsimp only
  rw [hmismatch]

/-- Without either, the filter is read as the condition that the operator means. -/
theorem map_fst_read_of_relation {kind : Kind} {op : Operator} {relation : Relation}
    {first : Scalar} {rest : List Scalar} (hkind : f.Shares settings kind)
    (hread : kind.read f.value.texts = .ok (first :: rest))
    (hresolve : resolve f.operator f.value.isList kind = .ok op)
    (hmismatch : mismatch? op f.value.isList kind = none)
    (hrelation : Filter.relation op kind = relation) :
    (f.read settings).map Prod.fst = .ok (.onField settings f.field relation first rest) := by
  let course : f.Course settings := ⟨kind, op, first, rest, hkind, hread, hresolve, hmismatch⟩
  rw [course.read_eq_ok, ← hrelation]
  rfl

/-- **What the verdict says is what reading gives**, case by case. -/
theorem Verdict.map_fst_read {r : Except Refusal Predicate} (h : f.Verdict settings r)
    (hne : f.value.texts ≠ []) : (f.read settings).map Prod.fst = r.mapError .refused := by
  cases h with
  | @mixed t u ht hu hdiffer =>
      obtain ⟨shared, hshared⟩ := Kind.exists_shared? settings hne
      cases shared with
      | none => rw [read_of_not_shared hshared]; rfl
      | some kind =>
          -- a shared kind would be the kind of both values
          have hkind := (Kind.shared?_eq_some_iff hne).1 hshared
          exact absurd ((hkind t ht).trans (hkind u hu).symm) hdiffer
  | @unknown kind token hkind hoperator hnone =>
      have hresolve : resolve f.operator f.value.isList kind = .error (.unknownOperator token) := by
        rw [hoperator, resolve, Comparison.ofToken?_eq_none_iff.2 hnone]
      rw [read_of_not_resolved hne hkind hresolve]
      rfl
  | @list kind op hkind hasks hlist hset =>
      have hmismatch : mismatch? (.comparison op) f.value.isList kind
          = some (.listWithScalarOperator (.comparison op)) := by
        simp [mismatch?, Operator.isSet, hlist, hset]
      rw [read_of_mismatch hne hkind hasks hmismatch]
      rfl
  | @null op hkind hasks hone hop =>
      have hmismatch : mismatch? (.comparison op) f.value.isList .null
          = some (.nullWithOperator (.comparison op)) := by
        simp [mismatch?, Operator.excludesNull, hone, hop]
      rw [read_of_mismatch hne hkind hasks hmismatch]
      rfl
  | number hkind hasks hone =>
      have hmismatch : mismatch? (.comparison .like) f.value.isList .number
          = some (.numberWithSubstring (.comparison .like)) := by
        simp [mismatch?, hone]
      rw [read_of_mismatch hne hkind hasks hmismatch]
      rfl
  | date hkind hasks hone =>
      have hmismatch : mismatch? (.comparison .like) f.value.isList .date
          = some (.dateWithSubstring (.comparison .like)) := by
        simp [mismatch?, hone]
      rw [read_of_mismatch hne hkind hasks hmismatch]
      rfl
  | isNull hkind hone hmeans =>
      obtain ⟨first, rest, hread⟩ := exists_values hne hkind
      rcases hmeans with hasks | ⟨hoperator, -⟩
      · exact map_fst_read_of_relation hkind hread (resolve_of_asks hasks .null)
          (by simp [mismatch?, hone, Operator.excludesNull, Comparison.isOrdering]) rfl
      · -- a single null by itself is checked for null at once, and not by way of equality
        have hresolve : resolve f.operator f.value.isList .null = .ok .isNull := by
          rw [hoperator, hone]
          rfl
        exact map_fst_read_of_relation hkind hread hresolve
          (by simp [mismatch?, hone, Operator.excludesNull]) rfl
  | isNotNull hkind hone hasks =>
      obtain ⟨first, rest, hread⟩ := exists_values hne hkind
      exact map_fst_read_of_relation hkind hread (resolve_of_asks hasks .null)
        (by simp [mismatch?, hone, Operator.excludesNull, Comparison.isOrdering]) rfl
  | @comparison kind op first rest hkind hmeans hsuits hread =>
      exact map_fst_read_of_relation hkind hread (resolve_of_suits hmeans hsuits)
        (mismatch?_of_suits hsuits) (relation_of_suits hsuits)

/-- **The verdict is one and only.** On a filter that has a value there is exactly one verdict, and
reading gives it. -/
theorem existsUnique_verdict {settings : Settings} {f : Filter} (hne : f.value.texts ≠ []) :
    ∃ r, (f.read settings).map Prod.fst = r.mapError .refused ∧
      ∀ other, f.Verdict settings other ↔ other = r := by
  obtain ⟨r, hr⟩ := exists_verdict settings hne
  have hread := hr.map_fst_read hne
  refine ⟨r, hread, fun other => ⟨?_, ?_⟩⟩
  · intro hother
    have hsame : other.mapError Failure.refused = r.mapError .refused :=
      (hother.map_fst_read hne).symm.trans hread
    cases other <;> cases r <;> cases hsame <;> rfl
  · rintro rfl
    exact hr

/-- The name of the check for null is an operator like any other, also with a list of nulls: the
refusal is that no comparison has this name, and not that a list is checked for null. -/
theorem existsUnique_verdict_of_unknown :
    (["null", " NULL"] : List String) ≠ [] ∧
      ∀ other,
        Verdict .standard ⟨"filter", "left", some " $IsNull", .many ["null", " NULL"]⟩ other ↔
          other = .error (.unknownOperator " $IsNull") := by
  have hne : (["null", " NULL"] : List String) ≠ [] := List.cons_ne_nil _ _
  refine ⟨hne, ?_⟩
  obtain ⟨r, hread, hiff⟩ := @existsUnique_verdict .standard
    ⟨"filter", "left", some " $IsNull", .many ["null", " NULL"]⟩ hne
  have hrefused : (read .standard ⟨"filter", "left", some " $IsNull", .many ["null", " NULL"]⟩).map
      Prod.fst = .error (.refused (.unknownOperator " $IsNull")) := by decide +kernel
  cases r with
  | ok predicate => cases hrefused.symm.trans hread
  | error refusal =>
      cases hrefused.symm.trans hread
      exact hiff

end Filter

end FilterQuery
