/-
The runs of a text: its longest rows of characters other than brackets.

The segments of a key are computed by cutting: at every bracket, and what is empty is dropped. What
they are can be said without cutting. A text has brackets in front, perhaps none; then a run, which
ends where the text does or at a bracket; and then the runs of what is left. `Runs` says it so, and
the runs told in this way are the ones that cutting finds (`runs_iff`), every text has them
(`exists_runs`), and no text has them in two ways.

The keys of the filters begin with a keyword, and a keyword is one run. So the question whether it
is the whole first segment of a key comes down to the one character behind it
(`segments_eq_cons_iff`): that must be a bracket, or else it would belong to the same run.
-/
import FilterQuery.Proofs.BracketKey

set_option autoImplicit false

namespace FilterQuery.BracketKey

open FilterQuery.Text

/-! ## Runs, computed and told -/

/-- The pieces of a text between its brackets, without the empty ones. -/
def runs (s : List Char) : List (List Char) :=
  (piecesAt isBracket s).filter (· ≠ [])

theorem segments_eq_map_runs (key : String) :
    segments key = (runs key.toList).map String.ofList := rfl

/-- What can stand behind a run: nothing, or a bracket and more. -/
def EndsRun (s : List Char) : Prop :=
  ∀ c ∈ s.head?, isBracket c = true

/-- The runs of a text, from left to right. -/
inductive Runs : List Char → List (List Char) → Prop
  | nil {brackets : List Char} (hbrackets : ∀ c ∈ brackets, isBracket c = true) : Runs brackets []
  | cons {brackets run behind : List Char} {more : List (List Char)}
      (hbrackets : ∀ c ∈ brackets, isBracket c = true)
      (hne : run ≠ []) (hfree : ∀ c ∈ run, isBracket c = false)
      (hends : EndsRun behind) (hmore : Runs behind more) :
      Runs (brackets ++ (run ++ behind)) (run :: more)

/-! ## Taking a run off the front -/

/-- Brackets in front add no run. -/
theorem runs_brackets_append {brackets : List Char} (hbrackets : ∀ c ∈ brackets, isBracket c = true)
    (s : List Char) : runs (brackets ++ s) = runs s := by
  unfold runs
  induction brackets with
  | nil => rfl
  | cons c brackets ih =>
      obtain ⟨hc, hrest⟩ := List.forall_mem_cons.1 hbrackets
      rw [List.cons_append, piecesAt, if_pos hc, List.filter_cons_of_neg (by simp), ih hrest]

/-- **A run in front is taken whole**, and what is behind it is cut on its own. -/
theorem runs_append {run behind : List Char} (hne : run ≠ [])
    (hfree : ∀ c ∈ run, isBracket c = false) (hends : EndsRun behind) :
    runs (run ++ behind) = run :: runs behind := by
  rcases behind with _ | ⟨c, behind⟩
  · simp [runs, piecesAt, piecesAt_of_forall hfree, hne]
  · have hc : isBracket c = true := hends c rfl
    -- the bracket that ends the run is the first of those in front of the rest
    have hbracket : ∀ d ∈ [c], isBracket d = true := by simpa using hc
    have hbehind : runs (c :: behind) = runs behind := runs_brackets_append hbracket behind
    rw [hbehind, runs, piecesAt_append_cons run behind hc, piecesAt_of_forall hfree,
      List.singleton_append, List.filter_cons_of_pos (by simpa using hne)]
    rfl

/-- Every text is a row of other characters, perhaps none, and something that ends it. -/
theorem exists_eq_append (s : List Char) :
    ∃ run behind, s = run ++ behind ∧ (∀ c ∈ run, isBracket c = false) ∧ EndsRun behind := by
  refine ⟨s.takeWhile (!isBracket ·), s.dropWhile (!isBracket ·),
    List.takeWhile_append_dropWhile.symm, ?_, ?_⟩
  · intro c hc
    simpa using List.all_eq_true.1 List.all_takeWhile c hc
  · intro c hc
    have hhead := List.head?_dropWhile_not (!isBracket ·) s
    rw [hc] at hhead
    simpa using hhead

/-! ## The two agree -/

theorem Runs.runs_eq {s : List Char} {more : List (List Char)} (h : Runs s more) :
    runs s = more := by
  induction h with
  | nil hbrackets =>
      have hnil := runs_brackets_append hbrackets []
      rw [List.append_nil] at hnil
      rw [hnil]
      rfl
  | cons hbrackets hne hfree hends _ ih =>
      rw [runs_brackets_append hbrackets, runs_append hne hfree hends, ih]

/-- A bracket in front of a text changes none of its runs. -/
theorem Runs.bracket_cons {c : Char} (hc : isBracket c = true) {s : List Char}
    {more : List (List Char)} (h : Runs s more) : Runs (c :: s) more := by
  rcases h with hbrackets | ⟨hbrackets, hne, hfree, hends, hmore⟩
  · exact .nil (List.forall_mem_cons.2 ⟨hc, hbrackets⟩)
  · exact .cons (List.forall_mem_cons.2 ⟨hc, hbrackets⟩) hne hfree hends hmore

/-- Any other character is a run of its own in front of a text that ends one. -/
theorem Runs.char_cons {c : Char} (hc : isBracket c = false) {s : List Char}
    {more : List (List Char)} (hends : EndsRun s) (h : Runs s more) :
    Runs (c :: s) ([c] :: more) := by
  have hnone : ∀ d ∈ ([] : List Char), isBracket d = true := by simp
  have hone : ∀ d ∈ [c], isBracket d = false := by simpa using hc
  exact .cons hnone (List.cons_ne_nil c []) hone hends h

/-- **Every text has runs.** A character in front is a bracket, is a run by itself, or joins the run
that the rest begins with. -/
theorem exists_runs (s : List Char) : ∃ more, Runs s more := by
  induction s with
  | nil => exact ⟨[], .nil (by simp)⟩
  | cons c s ih =>
      obtain ⟨more, h⟩ := ih
      by_cases hc : isBracket c = true
      · exact ⟨more, h.bracket_cons hc⟩
      rw [Bool.not_eq_true] at hc
      cases h with
      | nil hbrackets =>
          refine ⟨_, Runs.char_cons hc ?_ (.nil hbrackets)⟩
          intro d hd
          exact hbrackets d (List.mem_of_mem_head? hd)
      | @cons brackets run behind more hbrackets hne hfree hends hmore =>
          by_cases hfront : brackets = []
          · -- nothing stands between the character and the first run
            subst hfront
            exact ⟨_, .cons hbrackets (List.cons_ne_nil c run)
              (List.forall_mem_cons.2 ⟨hc, hfree⟩) hends hmore⟩
          · refine ⟨_, Runs.char_cons hc ?_ (.cons hbrackets hne hfree hends hmore)⟩
            intro d hd
            obtain ⟨b, rest, rfl⟩ := List.exists_cons_of_ne_nil hfront
            have hbd : b = d := by simpa using hd
            rw [← hbd]
            exact hbrackets b List.mem_cons_self

/-- **The runs of a text are what cutting finds.** -/
theorem runs_iff {s : List Char} {more : List (List Char)} : Runs s more ↔ runs s = more := by
  constructor
  · exact Runs.runs_eq
  · rintro rfl
    obtain ⟨more, h⟩ := exists_runs s
    rw [h.runs_eq]
    exact h

/-! ## What the runs tell of a text -/

/-- No runs are found in brackets, and in nothing else. -/
theorem runs_nil_iff {s : List Char} : Runs s [] ↔ ∀ c ∈ s, isBracket c = true := by
  constructor
  · rintro ⟨hbrackets⟩
    exact hbrackets
  · exact Runs.nil

/-- A text with a run holds a character that is no bracket. -/
theorem Runs.exists_free {s run : List Char} {more : List (List Char)} (h : Runs s (run :: more)) :
    ∃ c ∈ s, isBracket c = false := by
  rcases h with _ | @⟨brackets, _, behind, _, hbrackets, hne, hfree, hends, hmore⟩
  obtain ⟨c, rest, rfl⟩ := List.exists_cons_of_ne_nil hne
  refine ⟨c, ?_, hfree c List.mem_cons_self⟩
  exact List.mem_append_right brackets (List.mem_append_left behind List.mem_cons_self)

/-- **What is behind the first segment of a key.** A word without brackets in front of a key is its
first segment exactly when a bracket follows, or nothing, and then the other segments are the runs
of what follows. -/
theorem segments_eq_cons_iff {word key : String} {others : List String} (hword : IsSegment word) :
    (word.toList <+: key.toList ∧ segments key = word :: others) ↔
      ∃ behind, key.toList = word.toList ++ behind ∧ EndsRun behind ∧
        Runs behind (others.map String.toList) := by
  obtain ⟨hne, hfree⟩ := hword
  have hne : word.toList ≠ [] := by rwa [Ne, String.toList_eq_nil_iff]
  constructor
  · rintro ⟨⟨rest, hkey⟩, hsegments⟩
    obtain ⟨run, behind, rfl, hrun, hends⟩ := exists_eq_append rest
    -- the word and the run behind it are one run of the key
    have hjoined : ∀ c ∈ word.toList ++ run, isBracket c = false := by
      intro c hc
      rcases List.mem_append.1 hc with hc | hc
      · exact hfree c hc
      · exact hrun c hc
    rw [segments_eq_map_runs, ← hkey, ← List.append_assoc,
      runs_append (List.append_ne_nil_of_left_ne_nil hne run) hjoined hends, List.map_cons,
      List.cons.injEq] at hsegments
    have hself : word.toList ++ run = word.toList := by
      have hfirst := congrArg String.toList hsegments.1
      rwa [String.toList_ofList] at hfirst
    have hnone : run = [] := by simpa using hself
    subst hnone
    refine ⟨behind, hkey.symm, hends, runs_iff.2 ?_⟩
    rw [← hsegments.2, List.map_map]
    simp [Function.comp_def]
  · rintro ⟨behind, hkey, hends, hruns⟩
    refine ⟨⟨behind, hkey.symm⟩, ?_⟩
    rw [segments_eq_map_runs, hkey, runs_append hne hfree hends, hruns.runs_eq, List.map_cons,
      List.map_map, String.ofList_toList]
    simp [Function.comp_def]

end FilterQuery.BracketKey
