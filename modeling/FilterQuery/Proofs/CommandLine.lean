/-
The two ways of answering.

A program that calls `filter` looks at the exit code and reads JSON, a person looks at a drawing or a
table. Both go through the same reading but are answered apart, so what is asked here is whether they
are told the same. They are: the exit code depends on the keyword and on the problems alone, the line
of JSON denotes the outcome, and what a person is shown goes to one stream only (`run_calls`).

This is said of every host on which a plain call is understood and a document is printed. There is one
exception left, and it is the program's own. A predicate is gone into by calls in one another, once to
make data of it and again to write them or to draw them, and a long query string asks for more calls
than there may be. Then there is no answer at all, although there are no problems
(`run_calls_of_numberedQuery`). How many calls are needed is exact: as many as there are levels, of
the predicate and of its data.
-/
import FilterQuery.CommandLine.Standard
import FilterQuery.Proofs.Fault
import FilterQuery.Proofs.Fitting
import FilterQuery.Proofs.Growing
import FilterQuery.Proofs.JsonReading
import FilterQuery.Proofs.Totality
import FilterQuery.Proofs.Validation
import FilterQuery.Proofs.Words

set_option autoImplicit false

namespace FilterQuery

/-! ## Outcomes are finite data -/

namespace Datum

theorem isFinite_text (t : String) : (Datum.text t).IsFinite := .scalar trivial

theorem isFinite_null : Datum.null.IsFinite := .scalar trivial

theorem isFinite_column (t : Option String) : (Problem.column t).IsFinite := by
  cases t with
  | none => exact isFinite_null
  | some t => exact isFinite_text t

/-- The value of a parameter is made of texts. -/
theorem isFinite_toDatum (value : ParamValue) : value.toDatum.IsFinite := by
  cases value with
  | one t => exact isFinite_text t
  | many ts => exact .list (List.forall_mem_map.2 fun t _ => isFinite_text t)

end Datum

/-- Of the values of a kind only numbers could be infinite, and those are held. -/
theorem Kind.isFinite_of_isValue {settings : Settings} {kind : Kind} {v : Scalar}
    (hv : kind.IsValue settings v) : v.IsFinite := by
  rcases hv.cases with ⟨-, rfl, -⟩ | ⟨-, hnumber⟩ | ⟨t, rfl, -, -⟩
  · trivial
  · cases v with
    | float x => exact hnumber
    | _ => trivial
  · trivial

namespace Predicate

variable {settings : Settings}

theorem isFinite_onField {field : String} {relation : Relation} {first : Scalar}
    {rest : List Scalar} (hvalues : ∀ v ∈ first :: rest, v.IsFinite) :
    ((onField settings field relation first rest).toDatum settings).IsFinite := by
  have hcomparison : ∀ (op : Comparison) (a : Datum) (as : List Datum),
      (∀ d ∈ a :: as, d.IsFinite) → ((comparison op field a as).toDatum settings).IsFinite := by
    intro op a as has
    have hmarked : ∀ ds : List Datum, (∀ d ∈ ds, d.IsFinite) →
        ∀ d ∈ reference settings field :: ds, d.IsFinite := fun ds hds =>
      List.forall_mem_cons.2 ⟨Datum.isFinite_text _, hds⟩
    rw [toDatum]
    -- A set keeps its values in a list of their own, the others have them next to the field.
    refine .record (List.forall_mem_singleton.2 (.list (hmarked _ ?_)))
    split
    · exact List.forall_mem_singleton.2 (.list has)
    · exact has
  unfold onField
  split
  · exact .record (List.forall_mem_singleton.2 (Datum.isFinite_text _))
  · apply hcomparison
    rw [List.forall_mem_cons, List.forall_mem_map]
    exact ⟨Datum.isFinite_text _, fun v _ => Datum.isFinite_text _⟩
  · apply hcomparison
    rw [List.forall_mem_cons, List.forall_mem_map]
    obtain ⟨hfirst, hrest⟩ := List.forall_mem_cons.1 hvalues
    exact ⟨.scalar hfirst, fun v hv => .scalar (hrest v hv)⟩

theorem isFinite_toDatum {p : Predicate}
    (hleaves : ∀ leaf ∈ p.leaves, (leaf.toDatum settings).IsFinite) :
    (p.toDatum settings).IsFinite := by
  induction p with
  | nullCheck check field => exact hleaves _ (List.mem_singleton.2 rfl)
  | comparison op field first rest => exact hleaves _ (List.mem_singleton.2 rfl)
  | both left right ihleft ihright =>
      obtain ⟨hleft, hright⟩ := List.forall_mem_append.1 hleaves
      refine .record (List.forall_mem_singleton.2 (.list ?_))
      rw [List.forall_mem_cons, List.forall_mem_singleton]
      exact ⟨ihleft hleft, ihright hright⟩

end Predicate

/-- **What reading gives has a JSON spelling.** -/
theorem Outcome.isFinite_toDatum {settings : Settings} {query : String} {outcome : Outcome}
    {notes : List Note} (hparse : parse settings query = .ok (outcome, notes)) :
    (outcome.toDatum settings).IsFinite := by
  have hpredicate : (outcome.predicate.elim .null (·.toDatum settings)).IsFinite := by
    cases ht : outcome.predicate with
    | none => exact Datum.isFinite_null
    | some t =>
        apply Predicate.isFinite_toDatum
        intro leaf hleaf
        obtain ⟨f, -, note, hread⟩ :=
          Filter.exists_filter_of_mem (forall₂_of_parse hparse ht).2 leaf hleaf
        obtain ⟨c, rfl, -⟩ := Filter.read_eq_ok_iff.1 hread
        exact Predicate.isFinite_onField fun v hv => Kind.isFinite_of_isValue (c.isValue v hv).1
  have hproblems : ∀ d ∈ outcome.problems.map (·.toDatum), d.IsFinite := by
    rw [List.forall_mem_map]
    intro problem hproblem
    obtain ⟨key, f, refusal, -, -, -, rfl⟩ := find?_of_parse hparse hproblem
    refine .record ?_
    simp only [List.forall_mem_cons]
    exact ⟨Datum.isFinite_column _, Datum.isFinite_text _, Datum.isFinite_column _,
      Datum.isFinite_column _, Datum.isFinite_toDatum _, by simp⟩
  refine .record ?_
  simp only [List.forall_mem_cons]
  exact ⟨hpredicate, .list hproblems, by simp⟩

/-! ## Outcomes within the limits -/

namespace Datum

theorem nestingOfItems_le_iff {items : List Datum} {n : Nat} :
    nestingOfItems items ≤ n ↔ ∀ d ∈ items, d.nesting ≤ n := by
  induction items with
  | nil => simp [nestingOfItems]
  | cons d items ih => rw [nestingOfItems, Nat.max_le, ih, List.forall_mem_cons]

/-- The value of a parameter is a text or a list of texts. -/
theorem nesting_toDatum_le (value : ParamValue) :
    value.toDatum.nesting ≤ 1 ∧ value.toDatum.isWritable = true := by
  cases value with
  | one t => exact ⟨Nat.zero_le _, rfl⟩
  | many ts =>
      constructor
      · refine Nat.succ_le_succ (nestingOfItems_le_iff.2 ?_)
        exact List.forall_mem_map.2 fun t _ => Nat.le_refl _
      · exact areWritable_iff.2 (List.forall_mem_map.2 fun t _ => rfl)

end Datum

namespace Predicate

variable {settings : Settings}

theorem nesting_comparison_le {op : Comparison} {field : String} {first : Datum}
    {rest : List Datum} (hvalues : ∀ d ∈ first :: rest, d.nesting = 0) :
    ((comparison op field first rest).toDatum settings).nesting ≤ 3 := by
  have hvalues : Datum.nestingOfItems (first :: rest) ≤ 0 :=
    Datum.nestingOfItems_le_iff.2 fun d hd => Nat.le_of_eq (hvalues d hd)
  have hreference : (reference settings field).nesting = 0 := rfl
  rw [toDatum]
  split <;> simp only [Datum.nesting, Datum.nestingOfEntries, Datum.nestingOfItems] at hvalues ⊢ <;>
    omega

/-- A condition that was read compares with scalars, perhaps with a list of them. -/
theorem nesting_onField_le {field : String} {relation : Relation} {first : Scalar}
    {rest : List Scalar} :
    ((onField settings field relation first rest).toDatum settings).nesting ≤ 3 := by
  unfold onField
  split
  · exact Nat.le_of_ble_eq_true rfl
  · apply nesting_comparison_le
    rw [List.forall_mem_cons, List.forall_mem_map]
    exact ⟨rfl, fun v _ => rfl⟩
  · apply nesting_comparison_le
    rw [List.forall_mem_cons, List.forall_mem_map]
    exact ⟨rfl, fun v _ => rfl⟩

/-- **A predicate asks for calls by its depth**: two for each AND to write its data, and one to draw
it. -/
theorem nesting_and_drawingCalls_le {p : Predicate}
    (hleaves : ∀ leaf ∈ p.leaves, (leaf.toDatum settings).nesting ≤ 3) :
    (p.toDatum settings).nesting ≤ 2 * p.depth + 3 ∧ p.drawingCalls settings ≤ p.depth + 4 := by
  induction p with
  | both left right ihleft ihright =>
      obtain ⟨hleft, hright⟩ := List.forall_mem_append.1 hleaves
      have hnleft := ihleft hleft
      have hnright := ihright hright
      simp only [toDatum, Datum.nesting, Datum.nestingOfEntries, Datum.nestingOfItems, depth,
        drawingCalls]
      omega
  | _ =>
      have hleaf := hleaves _ (List.mem_singleton.2 rfl)
      exact ⟨Nat.le_trans hleaf (Nat.le_add_left _ _),
        Nat.le_trans (Nat.succ_le_succ hleaf) (Nat.le_add_left _ _)⟩

theorem depth_lt_drawingCalls (p : Predicate) : p.depth < p.drawingCalls settings := by
  induction p with
  | both left right ihleft ihright =>
      rw [depth, drawingCalls]
      omega
  | _ => exact Nat.succ_pos _

end Predicate

namespace Outcome

variable {settings : Settings} {query : String} {outcome : Outcome} {notes : List Note}

/-- A problem is a record of texts and the value of a parameter. -/
theorem nesting_problem_le (hparse : parse settings query = .ok (outcome, notes)) :
    ∀ d ∈ outcome.problems.map (·.toDatum), d.nesting ≤ 2 ∧ d.isWritable = true := by
  rw [List.forall_mem_map]
  intro problem hproblem
  obtain ⟨key, f, refusal, -, -, -, rfl⟩ := find?_of_parse hparse hproblem
  obtain ⟨hnesting, hwritable⟩ := Datum.nesting_toDatum_le f.value
  constructor
  · refine Nat.succ_le_succ ?_
    simpa [Datum.nestingOfEntries, Datum.nesting, Problem.ofRefusal, Problem.column, Datum.text]
      using hnesting
  · simpa [Datum.isWritable, Datum.entriesAreWritable, Problem.toDatum, Problem.ofRefusal,
      Problem.column, Datum.text, Scalar.isWritable] using hwritable

theorem problems_eq_nil_of_predicate (hparse : parse settings query = .ok (outcome, notes))
    {p : Predicate} (hp : outcome.predicate = some p) : outcome.problems = [] := by
  obtain ⟨batch, -, hresult⟩ := parseParams_eq settings query (Params.ofQuery settings query)
  rw [parse_eq_parseParams, Option.getD_none, hresult] at hparse
  obtain ⟨rfl, -⟩ := Prod.mk.inj (Except.ok.inj hparse)
  cases hrefused : batch.refused with
  | none => rw [Filter.Batch.result, hrefused]
  | some refused =>
      rw [Filter.Batch.result, hrefused] at hp
      cases hp

theorem isWritable_toDatum (hparse : parse settings query = .ok (outcome, notes)) :
    (outcome.toDatum settings).isWritable = true := by
  have hproblems : Datum.areWritable (outcome.problems.map (·.toDatum)) = true :=
    Datum.areWritable_iff.2 fun d hd => (nesting_problem_le hparse d hd).2
  have hpredicate : (outcome.predicate.elim .null (·.toDatum settings)).isWritable = true := by
    cases hp : outcome.predicate with
    | none => rfl
    | some p =>
        exact (Predicate.isWritable_toDatum settings p).trans
          (Predicate.isWritable_of_parse hparse hp)
  simp [toDatum, Datum.isWritable, Datum.entriesAreWritable, hpredicate, hproblems]

/-- **How deep the data of an outcome are** depends on the predicate, if there is some room. -/
theorem nesting_toDatum_le_iff (hparse : parse settings query = .ok (outcome, notes)) {room : Nat}
    (hroom : 4 ≤ room) : (outcome.toDatum settings).nesting ≤ room ↔
      ∀ p ∈ outcome.predicate, (p.toDatum settings).nesting < room := by
  have hproblems : Datum.nestingOfItems (outcome.problems.map (·.toDatum)) ≤ 2 :=
    Datum.nestingOfItems_le_iff.2 fun d hd => (nesting_problem_le hparse d hd).1
  have hnesting : (outcome.toDatum settings).nesting
      = max (outcome.predicate.elim .null (·.toDatum settings)).nesting
          (Datum.nestingOfItems (outcome.problems.map (·.toDatum)) + 1) + 1 := by
    simp [toDatum, Datum.nesting, Datum.nestingOfEntries]
  rw [hnesting]
  cases outcome.predicate with
  | none =>
      have hnull : Datum.null.nesting = 0 := rfl
      simp only [Option.elim_none, Option.mem_def, reduceCtorEq, false_implies, implies_true,
        iff_true, hnull]
      omega
  | some p =>
      simp only [Option.elim_some, Option.mem_def, Option.some.injEq, forall_eq']
      omega

theorem renderDatum_eq (settings : Settings) (room : Nat) (outcome : Outcome) :
    (∀ p ∈ outcome.predicate, p.depth < room) ∧
        outcome.renderDatum settings room = .ok (outcome.toDatum settings) ∨
      (∃ p ∈ outcome.predicate, ¬ p.depth < room) ∧
        outcome.renderDatum settings room = .error .tooManyCalls := by
  rw [renderDatum, toDatum]
  cases outcome.predicate with
  | none => exact .inl ⟨nofun, rfl⟩
  | some p =>
      dsimp only
      rw [Predicate.renderDatum_eq, Unwritable.unlessFits]
      by_cases hroom : p.depth + 1 ≤ room
      · rw [if_pos hroom]
        exact .inl ⟨fun q hq => Option.some.inj hq ▸ hroom, rfl⟩
      · rw [if_neg hroom]
        exact .inr ⟨⟨p, rfl, hroom⟩, rfl⟩

end Outcome

/-! ## Printers that do not give up -/

namespace Console

/-- A printer that prints nothing where another one gives up, unless a tag cannot be understood. -/
def Printer.steady {Fault : Type} (printer : Printer Fault) : Printer Fault :=
  { printer with
    print := fun document => do
      let _ ← document.taggedTexts.mapM printer.untagged
      match printer.print document with
      | .ok out => return out
      | .error _ => return "" }

theorem Markup.tag?_of_not_mem {s : List Char} (hs : '[' ∉ s) : tag? s = none := by
  rw [tag?]
  split
  · next rest hrest =>
    exact absurd (List.mem_of_mem_drop (hrest ▸ List.mem_cons_self)) hs
  · rfl

/-- Without a bracket there is one part at most. -/
theorem Markup.partsAfter_of_not_mem {s : List Char} (hs : '[' ∉ s) (position : Nat)
    (pending : List Char) : partsAfter position 0 pending s = textPart (pending ++ s) := by
  induction s generalizing position pending with
  | nil => rw [partsAfter, List.append_nil]
  | cons c s ih =>
      rw [partsAfter, tag?_of_not_mem hs]
      dsimp only
      rw [ih (fun hmem => hs (List.mem_cons_of_mem c hmem)), List.append_assoc,
        List.singleton_append]

theorem Terminal.exists_untagged_eq {text : String} (htext : '[' ∉ text.toList) :
    ∃ shown, untagged text = .ok shown := by
  rw [untagged, Markup.read, Markup.parts, Markup.partsAfter_of_not_mem htext, List.nil_append,
    Markup.textPart]
  split <;> exact ⟨_, rfl⟩

/-- **What is relied on where something is printed**, of the printer for a terminal, made steady. -/
theorem Terminal.prints_steady : printer.steady.Prints where
  untagged_bold := drawsTrees_printer.untagged_bold
  untagged_plain _ htext := exists_untagged_eq htext
  print document htagged := by
    have htexts : ∀ texts : List String,
        (∀ text ∈ texts, ∃ shown, printer.untagged text = .ok shown) →
        ∃ shown, texts.mapM printer.untagged = .ok shown := by
      intro texts h
      induction texts with
      | nil => exact ⟨[], rfl⟩
      | cons text texts ih =>
          obtain ⟨⟨first, hfirst⟩, hrest⟩ := List.forall_mem_cons.1 h
          obtain ⟨others, hothers⟩ := ih hrest
          exact ⟨first :: others, by rw [List.mapM_cons, hfirst, hothers]; rfl⟩
    obtain ⟨shown, hshown⟩ := htexts _ htagged
    rw [Printer.steady]
    dsimp only
    rw [hshown]
    cases printer.print document with
    | ok out => exact ⟨out, rfl⟩
    | error fault => exact ⟨"", rfl⟩

end Console

namespace CommandLine

open Console

/-! ## Keywords -/

/-- A text that can be the keyword of filters. -/
def IsKeyword (keyword : String) : Prop :=
  keyword ≠ "" ∧ '[' ∉ keyword.toList ∧ ']' ∉ keyword.toList

instance : DecidablePred IsKeyword := fun keyword =>
  inferInstanceAs (Decidable (keyword ≠ "" ∧ '[' ∉ keyword.toList ∧ ']' ∉ keyword.toList))

/-- The standard settings, but for the keyword if one is given. -/
structure IsFor (keyword : Option String) (settings : Settings) : Prop where
  keyword_eq : settings.keyword = keyword.getD Settings.standard.keyword
  nullWord_eq : settings.nullWord = Settings.standard.nullWord
  wildcard_eq : settings.wildcard = Settings.standard.wildcard
  fieldMarker_eq : settings.fieldMarker = Settings.standard.fieldMarker
  separator_eq : settings.separator = Settings.standard.separator

section

variable {Value Misreading Fault : Type} (host : Host Value Misreading Fault)

/-- The one option that may be given is fit exactly if it can be the keyword. -/
theorem isFit_keyword_iff (keyword : String) :
    Settings.IsFit host.validator (Settings.Name.keyword.text, host.validator.ofText keyword) ↔
      IsKeyword keyword := by
  rw [Settings.isFit_iff, host.validator.readText_ofText]
  constructor
  · rintro ⟨t, ht, haccepts⟩
    rwa [← Except.ok.inj ht] at haccepts
  · exact fun h => ⟨keyword, rfl, h⟩

/-- **A keyword is refused exactly when it cannot be one.** -/
theorem settingsFor_cases (keyword : Option String) :
    (∀ k ∈ keyword, IsKeyword k) ∧
        (∃ settings, host.settingsFor keyword = .ok settings ∧ IsFor keyword settings) ∨
      (∃ k, keyword = some k ∧ ¬ IsKeyword k) ∧
        ∃ flaws, host.settingsFor keyword = .error flaws := by
  generalize hoptions : (keyword.toList.map fun k =>
    (Settings.Name.keyword.text, host.validator.ofText k)) = options
  have hnames : (options.map Prod.fst).Nodup := by
    rw [← hoptions]
    cases keyword <;> simp
  have hnone : Settings.allFlaws host.validator options = [] ↔ ∀ k ∈ keyword, IsKeyword k := by
    rw [Settings.allFlaws_eq_nil_iff hnames, ← hoptions, List.forall_mem_map]
    simp [isFit_keyword_iff]
  have hvalidates := @Settings.validates_ofOptions Value host.validator options
  rw [Host.settingsFor, hoptions]
  generalize Settings.ofOptions host.validator options = result at hvalidates ⊢
  cases hvalidates with
  | @taken settings hnoflaws hvalue =>
      refine .inl ⟨hnone.1 hnoflaws, settings, rfl, ?_⟩
      -- Nothing but the keyword is given, so nothing else is changed.
      have hother : ∀ name : Settings.Name, name ≠ .keyword →
          settings.value name = Settings.standard.value name := by
        intro name hname
        rcases hvalue name with ⟨given, hgiven, -⟩ | ⟨-, hdefault⟩
        · rw [← hoptions] at hgiven
          obtain ⟨k, -, hk⟩ := List.mem_map.1 (Params.mem_of_lookup hgiven)
          exact absurd (Settings.Name.text_injective (congrArg Prod.fst hk).symm) hname
        · exact hdefault
      have hkeyword : settings.keyword = keyword.getD Settings.standard.keyword := by
        rcases hvalue .keyword with ⟨given, hgiven, hread⟩ | ⟨habsent, hdefault⟩
        · rw [← hoptions] at hgiven
          cases keyword with
          | none => cases hgiven
          | some k =>
              have hk : given = host.validator.ofText k := by simpa using hgiven.symm
              rw [hk, host.validator.readText_ofText] at hread
              exact (Except.ok.inj hread).symm
        · rw [← hoptions] at habsent
          cases keyword with
          | none => exact hdefault
          | some k => simp at habsent
      have hseparator := congrArg String.toList (hother .separator (by decide))
      rw [Settings.value, Settings.value, Char.toString, Char.toString, String.toList_singleton,
        String.toList_singleton] at hseparator
      exact ⟨hkeyword, hother .nullWord (by decide), hother .wildcard (by decide),
        hother .fieldMarker (by decide), List.head_eq_of_cons_eq hseparator⟩
  | refused hflaws =>
      rw [Ne, hnone] at hflaws
      push Not at hflaws
      exact .inr ⟨hflaws, _, rfl⟩

/-! ## Running -/

variable {host}

/-- A plain call chooses the format and the keyword, and does not ask to be told more. -/
theorem choices_of_mem_calls {format : Format} {keyword : Option String} {query : String}
    {call : List String × Choices} (hcall : call ∈ calls format keyword query) :
    call.2.format = format ∧ call.2.verbosity = 0 ∧ call.2.keyword = keyword := by
  obtain ⟨⟨options, choices⟩, hspelling, hcall⟩ := List.mem_flatMap.1 hcall
  have hchoices : call.2 = { choices with keyword } := by
    simp only [List.mem_cons, List.not_mem_nil, or_false] at hcall
    rcases hcall with rfl | rfl <;> rfl
  have hformat : choices.format = format ∧ choices.verbosity = 0 := by
    cases format <;>
      simp only [Format.spellings, List.mem_cons, List.not_mem_nil, or_false, Prod.mk.injEq]
        at hspelling
    · rcases hspelling with ⟨-, rfl⟩ | ⟨-, rfl⟩ <;> exact ⟨rfl, rfl⟩
    · rcases hspelling with ⟨-, rfl⟩ | ⟨-, rfl⟩ | ⟨-, rfl⟩ | ⟨-, rfl⟩ <;> exact ⟨rfl, rfl⟩
  rw [hchoices]
  exact ⟨hformat.1, hformat.2, rfl⟩

theorem telling_nil (answer : Answer Misreading Fault) : answer.telling (.ok []) = answer := by
  cases answer with
  | printed texts => simp [Answer.telling, Answer.ofPrinted, bind, Except.bind, pure, Except.pure]
  | _ => rfl

/-- **What a plain call comes to**: the refusal of the keyword, or the answer to the query string. -/
theorem run_of_mem_calls (hreader : host.reader.Understands) {format : Format}
    {keyword : Option String} {query : String} {call : List String × Choices}
    (hcall : call ∈ calls format keyword query) :
    host.run call.1 = match host.settingsFor keyword with
      | .error _ => refuseKeyword host.printer (keyword.getD "")
      | .ok settings =>
        match parse settings query with
        | .ok (outcome, _) => answerFilter host.printer host.room settings format outcome
        | .error misuse => .misused misuse := by
  obtain ⟨hformat, hverbosity, hkeyword⟩ := choices_of_mem_calls hcall
  rw [Host.run, hreader format keyword query call hcall]
  dsimp only
  rw [hkeyword]
  cases host.settingsFor keyword with
  | error flaws => rfl
  | ok settings =>
      dsimp only [Host.perform]
      rw [Host.runFilter, hformat, hverbosity]
      -- Without a request to be told more, the notes are kept back.
      cases parse settings query with
      | error misuse => rfl
      | ok result => exact telling_nil _

/-! ## Answers -/

/-- The exit code for an outcome. -/
def exitCode (outcome : Outcome) : Nat := if outcome.problems = [] then 0 else 1

/-- An answer that is these texts if there is room for it, and is not written otherwise. -/
structure Answer.WritesIf (fits : Prop) (texts : Printed) (answer : Answer Misreading Fault) :
    Prop where
  printed : fits → answer = .printed texts
  unwritten : ¬ fits → ∃ failure, failure ≠ .tooManyDigits ∧ answer = .unwritten failure

/-- There is room for making data of a predicate, and for writing them within those of the outcome. -/
def FitsJson (settings : Settings) (room : Nat) (outcome : Outcome) : Prop :=
  ∀ p ∈ outcome.predicate, p.depth < room ∧ (p.toDatum settings).nesting < room

/-- There is room for drawing a predicate. -/
def FitsDrawing (settings : Settings) (room : Nat) (outcome : Outcome) : Prop :=
  ∀ p ∈ outcome.predicate, p.drawingCalls settings ≤ room

variable {settings : Settings} {query : String} {outcome : Outcome} {notes : List Note}

/-- **There is room for not too many filters.** -/
theorem fits_of_length_le (hparse : parse settings query = .ok (outcome, notes)) {room : Nat}
    (hroom : 100 ≤ room)
    (hlength : 2 * (Filter.ofParams settings (Params.ofQuery settings query)).length + 2 ≤ room) :
    FitsJson settings room outcome ∧ FitsDrawing settings room outcome := by
  have hcalls : ∀ p ∈ outcome.predicate, p.depth < room ∧
      (p.toDatum settings).nesting < room ∧ p.drawingCalls settings ≤ room := by
    intro p hp
    obtain ⟨hlean, hfilters⟩ := forall₂_of_parse hparse hp
    have hdepth := hlean.depth_add_one
    rw [← hfilters.length_eq, Option.getD_none] at hdepth
    have hleaves : ∀ leaf ∈ p.leaves, (leaf.toDatum settings).nesting ≤ 3 := by
      intro leaf hleaf
      obtain ⟨f, -, note, hread⟩ := Filter.exists_filter_of_mem hfilters leaf hleaf
      obtain ⟨c, rfl, -⟩ := Filter.read_eq_ok_iff.1 hread
      exact Predicate.nesting_onField_le
    have hbounds := Predicate.nesting_and_drawingCalls_le hleaves
    omega
  exact ⟨fun p hp => ⟨(hcalls p hp).1, (hcalls p hp).2.1⟩, fun p hp => (hcalls p hp).2.2⟩

/-- **The answer in JSON**: one line with the data of the outcome. -/
theorem answerFilter_json (printer : Printer Fault)
    (hparse : parse settings query = .ok (outcome, notes)) {room : Nat} (hroom : 4 ≤ room) :
    (answerFilter printer room settings .json outcome :
      Answer Misreading Fault).WritesIf (FitsJson settings room outcome)
        { exit := exitCode outcome, out := (outcome.toDatum settings).toJson .all ++ "\n" } := by
  have hexit : (if outcome.ok then 0 else 1) = exitCode outcome := by
    rw [exitCode, Outcome.ok]
    cases outcome.problems <;> rfl
  have hanswer : answerFilter printer room settings .json outcome
      = (writeJson room outcome.ok (outcome.renderDatum settings room) :
          Answer Misreading Fault) := rfl
  have hnesting := Outcome.nesting_toDatum_le_iff hparse hroom
  rw [hanswer, writeJson]
  rcases Outcome.renderDatum_eq settings room outcome with ⟨hdepth, hdatum⟩ | ⟨hdeep, hdatum⟩
  · have hwrite := Json.write_of_isWritable .all room _ (Outcome.isWritable_toDatum hparse)
    rw [hdatum]
    dsimp only [bind, Except.bind]
    rw [hwrite, Unwritable.unlessFits]
    by_cases hfits : (outcome.toDatum settings).nesting ≤ room
    · rw [if_pos hfits]
      dsimp only
      rw [hexit]
      exact ⟨fun _ => rfl, fun h =>
        absurd (fun p hp => ⟨hdepth p hp, hnesting.1 hfits p hp⟩) h⟩
    · rw [if_neg hfits]
      exact ⟨fun h => absurd (hnesting.2 fun p hp => (h p hp).2) hfits,
        fun _ => ⟨.tooDeep, nofun, rfl⟩⟩
  · obtain ⟨p, hp, hnot⟩ := hdeep
    rw [hdatum]
    exact ⟨fun h => absurd (h p hp).1 hnot, fun _ => ⟨.tooManyCalls, nofun, rfl⟩⟩

theorem answerFilter_of_drawn {p : Predicate} {document : Document} (printer : Printer Fault)
    {room : Nat} (hdrawing : p.drawing settings room = .ok document) :
    (answerFilter printer room settings .table { predicate := some p } : Answer Misreading Fault)
      = display printer document := by
  unfold answerFilter
  dsimp only
  rw [hdrawing]

theorem answerFilter_of_not_drawn {p : Predicate} {failure : Unwritable}
    (printer : Printer Fault) {room : Nat} (hdrawing : p.drawing settings room = .error failure) :
    (answerFilter printer room settings .table { predicate := some p } : Answer Misreading Fault)
      = .unwritten failure := by
  unfold answerFilter
  dsimp only
  rw [hdrawing]

theorem display_eq {printer : Printer Fault} (hprints : printer.Prints) {document : Document}
    (htagged : ∀ text ∈ document.taggedTexts, ∃ shown, printer.untagged text = .ok shown) :
    ∃ out, (display printer document : Answer Misreading Fault) = .printed { out } := by
  obtain ⟨out, hout⟩ := hprints.print document htagged
  exact ⟨out, by rw [display, hout]; rfl⟩

/-- **The answer for people**: a drawing on one stream, or a table on the other. -/
theorem answerFilter_table {printer : Printer Fault} (hprints : printer.Prints)
    (hparse : parse settings query = .ok (outcome, notes)) (room : Nat) :
    ∃ out err, (outcome.problems ≠ [] → out = "") ∧ (outcome.problems = [] → err = "") ∧
      (answerFilter printer room settings .table outcome : Answer Misreading Fault).WritesIf
        (FitsDrawing settings room outcome) { exit := exitCode outcome, out, err } := by
  obtain ⟨predicate, problems⟩ := outcome
  cases problems with
  | cons problem problems =>
      have hnone : predicate = none := by
        cases predicate with
        | none => rfl
        | some p => cases Outcome.problems_eq_nil_of_predicate hparse rfl
      obtain ⟨err, herr⟩ := hprints.print (.table (problemTable (problem :: problems)))
        (List.forall_mem_nil _)
      refine ⟨"", err, fun _ => rfl, fun h => absurd h (List.cons_ne_nil _ _), fun _ => ?_,
        fun h => ?_⟩
      · have hanswer : answerFilter printer room settings .table
            { predicate, problems := problem :: problems }
              = (report printer (problem :: problems) : Answer Misreading Fault) := rfl
        rw [hanswer, report, herr]
        rfl
      · have hfits : FitsDrawing settings room ⟨predicate, problem :: problems⟩ := by
          intro p hp
          rw [hnone] at hp
          cases hp
        exact absurd hfits h
  | nil =>
      cases predicate with
      | none =>
          have htagged : ∀ text ∈ (Document.tagged "No filters.").taggedTexts,
              ∃ shown, printer.untagged text = .ok shown :=
            List.forall_mem_singleton.2 (hprints.untagged_plain _ (by decide))
          obtain ⟨out, hout⟩ := display_eq hprints htagged
          exact ⟨out, "", fun h => absurd rfl h, fun _ => rfl, fun _ => hout,
            fun h => absurd (fun p hp => by cases hp) h⟩
      | some p =>
          have hwritable := Predicate.isWritable_of_parse hparse rfl
          by_cases hfits : p.drawingCalls settings ≤ room
          · obtain ⟨out, hout⟩ := display_eq hprints fun text htext =>
              ⟨_, Predicate.eq_of_mem_taggedTexts text htext ▸ hprints.untagged_bold⟩
            rw [answerFilter_of_drawn printer (Predicate.drawing_eq hwritable hfits)]
            refine ⟨out, "", fun h => absurd rfl h, fun _ => rfl, fun _ => hout, fun h => ?_⟩
            exact absurd (fun q hq => Option.some.inj hq ▸ hfits) h
          · obtain ⟨failure, hfailure, hdrawing⟩ :=
              Predicate.exists_drawing_eq_error hwritable (Nat.lt_of_not_le hfits)
            rw [answerFilter_of_not_drawn printer hdrawing]
            exact ⟨"", "", fun _ => rfl, fun _ => rfl, fun h => absurd (h p rfl) hfits,
              fun _ => ⟨failure, hfailure, rfl⟩⟩

/-- **Both ways of answering agree**, on every lawful host. A keyword that cannot be one is refused
with exit code 2, whatever the format. Otherwise the query string is read under that keyword and the
exit code tells whether there are problems. In JSON the outcome is told in one line on the first
stream; for people, the first stream is empty when there are problems and the second when there are
none. So it is if there is room for the calls that the predicate asks for, and without it there is no
answer. There is room if it is for twice as many calls as there are filters, and two more. -/
theorem run_calls (hhost : host.Lawful) (keyword : Option String) (query : String) :
    (∃ k, keyword = some k ∧ ¬ IsKeyword k ∧ ∃ err, ∀ format, ∀ call ∈ calls format keyword query,
      host.run call.1 = .printed { exit := 2, out := "", err }) ∨
    (∀ k ∈ keyword, IsKeyword k) ∧ ∃ settings outcome notes,
      IsFor keyword settings ∧ parse settings query = .ok (outcome, notes) ∧
      (∃ line, '\n' ∉ line.toList ∧ Json.read? line = some (outcome.toDatum settings) ∧
        ∀ call ∈ calls .json keyword query,
          (host.run call.1).WritesIf (FitsJson settings host.room outcome)
            { exit := exitCode outcome, out := line ++ "\n" }) ∧
      (∃ out err, (outcome.problems ≠ [] → out = "") ∧ (outcome.problems = [] → err = "") ∧
        ∀ call ∈ calls .table keyword query,
          (host.run call.1).WritesIf (FitsDrawing settings host.room outcome)
            { exit := exitCode outcome, out, err }) ∧
      (2 * (Filter.ofParams settings (Params.ofQuery settings query)).length + 2 ≤ host.room →
        FitsJson settings host.room outcome ∧ FitsDrawing settings host.room outcome) := by
  have hroom := hhost.hundred_le
  rcases settingsFor_cases host keyword with
    ⟨hkeyword, settings, hsettings, hfor⟩ | ⟨⟨k, rfl, hnot⟩, flaws, hflaws⟩
  · right
    obtain ⟨outcome, notes, hparse⟩ := exists_parse settings query none []
    -- What is run comes to the answer to `filter` in the one format and in the other.
    have hrun : ∀ format, ∀ call ∈ calls format keyword query,
        host.run call.1 = answerFilter host.printer host.room settings format outcome := by
      intro format call hcall
      rw [run_of_mem_calls hhost.understands hcall, hsettings]
      dsimp only
      rw [hparse]
    refine ⟨hkeyword, settings, outcome, notes, hfor, hparse,
      ⟨(outcome.toDatum settings).toJson .all, ?_, ?_, ?_⟩, ?_, ?_⟩
    · intro hline
      exact absurd (Json.isShown_of_mem_toJson '\n' hline) (by unfold Json.IsShown; decide)
    · exact Json.read?_toJson (Outcome.isFinite_toDatum hparse)
    · intro call hcall
      rw [hrun .json call hcall]
      exact answerFilter_json host.printer hparse (by omega)
    · obtain ⟨out, err, hout, herr, hanswer⟩ :=
        answerFilter_table hhost.prints hparse host.room
      exact ⟨out, err, hout, herr, fun call hcall => by rw [hrun .table call hcall]; exact hanswer⟩
    · exact fits_of_length_le hparse hroom
  · left
    obtain ⟨refusal, hrefusal⟩ :=
      hhost.prints.print (.line ("Error: Invalid --prefix: " ++ k)) nofun
    obtain ⟨hint, hhint⟩ := hhost.prints.print
      (.line "Hint: Use a plain word such as 'filter' or 'where'.") nofun
    refine ⟨k, rfl, hnot, refusal ++ hint, fun format call hcall => ?_⟩
    rw [run_of_mem_calls hhost.understands hcall, hflaws]
    dsimp only
    rw [refuseKeyword, Option.getD_some, hrefusal, hhint]
    rfl

/-- The settings are determined by the keyword. -/
theorem IsFor.unique {keyword : Option String} {settings settings' : Settings}
    (h : IsFor keyword settings) (h' : IsFor keyword settings') : settings = settings' := by
  obtain ⟨hkeyword, hnullWord, hwildcard, hfieldMarker, hseparator⟩ := h
  obtain ⟨hkeyword', hnullWord', hwildcard', hfieldMarker', hseparator'⟩ := h'
  cases settings
  cases settings'
  simp_all

end

/-- A host on which the program can be run, and which keeps to what is relied on. -/
def Host.steady : Host Settings.Given UsageError Console.Markup.Fault :=
  { standard with printer := Terminal.printer.steady }

/-- Two filters under a keyword, and a keyword with a bracket. -/
theorem run_calls_of_keywords :
    let query := "where[a]=1&where[b][in]=x,y"
    Host.steady.Lawful ∧ IsKeyword "where" ∧ ¬ IsKeyword "a[" ∧
      (∃ line, Json.read? line = some (.record [
          ("results", .record [("AND", .list [
            .record [("=", .list [.text "#a", .scalar (.int 1)])],
            .record [("in", .list [.text "#b", .list [.text "x", .text "y"]])]])]),
          ("errors", .list [])]) ∧
        ∀ call ∈ calls .json (some "where") query,
          Host.steady.run call.1 = .printed { out := line ++ "\n" }) ∧
      (∃ out, ∀ call ∈ calls .table (some "where") query,
        Host.steady.run call.1 = .printed { out }) ∧
      ∃ err, ∀ format, ∀ call ∈ calls format (some "a[") query,
        Host.steady.run call.1 = .printed { exit := 2, err } := by
  intro query
  have hlawful : Host.steady.Lawful :=
    ⟨understands_readWords, Terminal.prints_steady, by decide⟩
  have hwhere : IsKeyword "where" := by decide
  have hbracket : ¬ IsKeyword "a[" := by decide
  refine ⟨hlawful, hwhere, hbracket, ?_⟩
  rcases run_calls hlawful (some "where") query with ⟨k, hk, hnot, -⟩ |
    ⟨-, settings, outcome, notes, hfor, hparse, ⟨line, -, hread, hjson⟩,
      ⟨out, err, -, herr, htable⟩, hroom⟩
  · exact absurd (Option.some.inj hk ▸ hwhere) hnot
  rcases run_calls hlawful (some "a[") query with ⟨k, -, -, err', hrefused⟩ | ⟨hkeyword, -⟩
  swap
  · exact absurd (hkeyword "a[" rfl) hbracket
  obtain rfl : settings = { keyword := "where" } := hfor.unique ⟨rfl, rfl, rfl, rfl, rfl⟩
  have hvalue : (parse { keyword := "where" } query).toOption.map (·.1) = some {
      predicate := some (.both (.comparison .equal "a" (.scalar (.int 1)) [])
        (.comparison .oneOf "b" (.text "x") [.text "y"])) } := by
    decide +kernel
  rw [hparse] at hvalue
  obtain rfl := Option.some.inj hvalue
  obtain ⟨hfits, hfitsDrawing⟩ := hroom (by decide +kernel)
  refine ⟨⟨line, hread, fun call hcall => (hjson call hcall).printed hfits⟩, ⟨out, ?_⟩,
    err', hrefused⟩
  intro call hcall
  rw [(htable call hcall).printed hfitsDrawing, herr rfl]
  rfl

/-- As many checks as there may be calls, and one more, are not answered in any format. -/
theorem exists_run_eq_unwritten {n : Nat} (hn : callLimit ≤ n) {format : Format}
    {call : List String × Choices} (hcall : call ∈ calls format none (numberedQuery n)) :
    ∃ failure, Host.standard.run call.1 = .unwritten failure := by
  obtain ⟨notes, hparse⟩ := exists_parse_numberedQuery n
  have hdeep : callLimit ≤ (numberedChain n).depth := by rwa [depth_numberedChain]
  have hsettings : Host.standard.settingsFor none = .ok .standard := by
    rcases settingsFor_cases Host.standard none with ⟨-, settings, hsettings, hfor⟩ | ⟨h, -⟩
    · rw [hsettings, hfor.unique ⟨rfl, rfl, rfl, rfl, rfl⟩]
    · obtain ⟨k, hk, -⟩ := h
      cases hk
  rw [run_of_mem_calls understands_readWords hcall, hsettings]
  dsimp only
  rw [hparse]
  dsimp only
  cases format with
  | json =>
      have hanswer := @answerFilter_json UsageError _ _ _ _ _ Host.standard.printer hparse _
        (show 4 ≤ callLimit by decide)
      obtain ⟨failure, -, hfailure⟩ :=
        hanswer.unwritten fun h => Nat.not_lt.2 hdeep (h _ rfl).1
      exact ⟨failure, hfailure⟩
  | table =>
      have hcalls : callLimit < (numberedChain n).drawingCalls .standard :=
        Nat.lt_of_le_of_lt hdeep (numberedChain n).depth_lt_drawingCalls
      obtain ⟨failure, -, hdrawing⟩ :=
        Predicate.exists_drawing_eq_error (Predicate.isWritable_of_parse hparse rfl) hcalls
      exact ⟨failure, answerFilter_of_not_drawn _ hdrawing⟩

/-- **A query string that is too long**: it is read without problems, and there is no answer in
either format. -/
theorem run_calls_of_numberedQuery :
    (∃ notes, parse .standard (numberedQuery 1000)
      = .ok ({ predicate := some (numberedChain 1000) }, notes)) ∧
    ∀ format, ∀ call ∈ calls format none (numberedQuery 1000),
      ∃ failure, Host.standard.run call.1 = .unwritten failure :=
  ⟨exists_parse_numberedQuery 1000, fun _ _ => exists_run_eq_unwritten (Nat.le_refl _)⟩

end CommandLine

end FilterQuery
