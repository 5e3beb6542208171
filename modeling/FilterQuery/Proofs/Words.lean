/-
The plain calls of `filter` are understood.

The reader goes over the words once and takes the options out as it meets them, one or two words at a
time. What it takes from the front of a command line does not depend on what follows (`Takes`), so the
options of a call can be looked at one by one, and be put together in whichever order they stand.
-/
import FilterQuery.CommandLine.Words
import FilterQuery.Proofs.Pieces
import Mathlib.Data.List.Basic

set_option autoImplicit false

namespace FilterQuery.CommandLine

/-! ## Options in front -/

theorem ofWord_keyword (keyword : String) (rest : List String) :
    Options.ofWord programOptions ("--prefix=" ++ keyword) rest
      = .ok ([{ role := .keyword, value := keyword }], rest) := by
  -- The first equals sign ends the name, so the keyword may hold others.
  have hsplit : Options.splitValue ("--prefix=" ++ keyword) = ("--prefix", some keyword) := by
    have htext : ("--prefix=" ++ keyword).toList = "--prefix".toList ++ '=' :: keyword.toList := by
      rw [String.toList_append]
      rfl
    rw [Options.splitValue, htext, if_pos (List.mem_append_right _ List.mem_cons_self),
      Text.cutFirst_append_cons keyword.toList (by decide)]
    dsimp only
    rw [String.ofList_toList, String.ofList_toList]
  rw [Options.ofWord, hsplit]
  rfl

/-- One option with its value, in front of other words. -/
theorem scanSteps_option {word : String} {given : Given} {rest behind : List String}
    (hends : word ≠ "--") (hoption : Options.isOption word = true)
    (hword : Options.ofWord programOptions word rest = .ok ([given], behind)) (steps : Nat) :
    Options.scanSteps programOptions false (steps + 1) (word :: rest)
      = (Options.scanSteps programOptions false steps behind).map fun scanned =>
          { scanned with options := given :: scanned.options } := by
  rw [Options.scanSteps, if_neg hends, if_pos hoption, hword]
  dsimp only [bind, Except.bind]
  cases Options.scanSteps programOptions false steps behind <;> rfl

/-- Options that are taken from the front of a command line, whatever follows them. As two words may
be taken in one step, only a bound is kept on the steps that are left. -/
def Takes (words : List String) (options : List Given) : Prop :=
  ∀ (steps : Nat) (rest : List String), words.length < steps →
    ∃ left, steps ≤ left + words.length ∧
      Options.scanSteps programOptions false steps (words ++ rest)
        = (Options.scanSteps programOptions false left rest).map fun scanned =>
            { scanned with options := options ++ scanned.options }

theorem Takes.nil : Takes [] [] := by
  intro steps rest _
  refine ⟨steps, Nat.le_refl _, ?_⟩
  rw [List.nil_append]
  cases Options.scanSteps programOptions false steps rest <;> rfl

theorem Takes.append {front back : List String} {options others : List Given}
    (hfront : Takes front options) (hback : Takes back others) :
    Takes (front ++ back) (options ++ others) := by
  intro steps rest hsteps
  rw [List.length_append] at hsteps
  -- The words at the back are the rest for those in front, and enough steps are left for them.
  obtain ⟨left, hleft, hscan⟩ := hfront steps (back ++ rest) (by omega)
  obtain ⟨last, hlast, hscan'⟩ := hback left rest (by omega)
  refine ⟨last, by rw [List.length_append]; omega, ?_⟩
  rw [List.append_assoc, hscan, hscan']
  cases Options.scanSteps programOptions false last rest with
  | error e => rfl
  | ok scanned => simp [Except.map]

/-- A word that is one option. -/
theorem Takes.word {word : String} {given : Given} (hends : word ≠ "--")
    (hoption : Options.isOption word = true)
    (hword : ∀ rest, Options.ofWord programOptions word rest = .ok ([given], rest)) :
    Takes [word] [given] := by
  intro steps rest hsteps
  obtain ⟨left, rfl⟩ := Nat.exists_eq_succ_of_ne_zero (Nat.ne_zero_of_lt hsteps)
  exact ⟨left, Nat.le_refl _, scanSteps_option hends hoption (hword rest) left⟩

/-- The option for the keyword. -/
theorem Takes.keyword (keyword : String) :
    Takes ["--prefix=" ++ keyword] [{ role := .keyword, value := keyword }] := by
  have htext : ("--prefix=" ++ keyword).toList
      = '-' :: '-' :: ("prefix=".toList ++ keyword.toList) := by
    rw [String.toList_append]
    rfl
  refine Takes.word ?_ ?_ (ofWord_keyword keyword)
  · intro h
    rw [← String.toList_inj, htext] at h
    simp at h
  · rw [Options.isOption, ← String.length_toList, htext]
    simp

/-! ## Choices -/

/-- The options that may be read from the words that give a keyword, or none. -/
def keyGivens (keyword : Option String) : List Given :=
  keyword.toList.map fun value => { role := .keyword, value }

theorem role_of_mem_keyGivens {keyword : Option String} {given : Given}
    (hgiven : given ∈ keyGivens keyword) : given.role = .keyword := by
  obtain ⟨value, -, rfl⟩ := List.mem_map.1 hgiven
  rfl

section

variable {keyword : Option String} {front back : List Given}

/-- Where a keyword is given does not matter to the options of another role. -/
theorem filter_role_insert {role : Role} (hrole : role ≠ .keyword) :
    (front ++ (keyGivens keyword ++ back)).filter (·.role = role)
      = (front ++ back).filter (·.role = role) := by
  have hnone : (keyGivens keyword).filter (·.role = role) = [] := by
    refine List.filter_eq_nil_iff.2 fun given hgiven => ?_
    rw [role_of_mem_keyGivens hgiven, decide_eq_true_eq]
    exact Ne.symm hrole
  rw [List.filter_append, List.filter_append, hnone, List.nil_append, List.filter_append]

theorem request?_insert :
    request? (front ++ (keyGivens keyword ++ back)) = request? (front ++ back) := by
  have hnone : request? (keyGivens keyword) = none := by
    cases keyword <;> rfl
  rw [request?] at hnone
  rw [request?, request?, List.findSome?_append, List.findSome?_append, hnone, Option.none_or,
    List.findSome?_append]

/-- **Giving a keyword changes nothing else**, wherever it is given. -/
theorem choose_insert (hothers : ∀ given ∈ front ++ back, given.role ≠ .keyword) :
    choose (front ++ (keyGivens keyword ++ back))
      = (choose (front ++ back)).map fun choices => { choices with keyword } := by
  have hoptions : ∀ role : Role, role ≠ .keyword →
      lastValue? role (front ++ (keyGivens keyword ++ back)) = lastValue? role (front ++ back) ∧
        (front ++ (keyGivens keyword ++ back)).countP (·.role = role)
          = (front ++ back).countP (·.role = role) := by
    intro role hrole
    rw [lastValue?, lastValue?, List.countP_eq_length_filter, List.countP_eq_length_filter,
      filter_role_insert hrole]
    exact ⟨rfl, rfl⟩
  have hjson : (front ++ (keyGivens keyword ++ back)).any (·.role = .json)
      = (front ++ back).any (·.role = .json) := by
    have hnone : (keyGivens keyword).any (·.role = .json) = false := by
      cases keyword <;> rfl
    rw [List.any_append, List.any_append, hnone, Bool.false_or, List.any_append]
  have hkeyword : lastValue? .keyword (front ++ (keyGivens keyword ++ back)) = keyword := by
    obtain ⟨hfront, hback⟩ := List.forall_mem_append.1 hothers
    have hnone : ∀ givens : List Given, (∀ given ∈ givens, given.role ≠ .keyword) →
        givens.filter (·.role = .keyword) = [] := fun givens hgivens =>
      List.filter_eq_nil_iff.2 fun given hgiven => by
        rw [decide_eq_true_eq]
        exact hgivens given hgiven
    rw [lastValue?, List.filter_append, List.filter_append, hnone front hfront,
      hnone back hback, List.nil_append, List.append_nil]
    cases keyword <;> rfl
  rw [choose, choose, (hoptions .output (by decide)).1, (hoptions .verbose (by decide)).2, hjson,
    hkeyword]
  cases lastValue? .output (front ++ back) with
  | none => rfl
  | some value =>
      dsimp only
      cases Format.ofName? value <;> rfl

end

/-- **A format is chosen by each of its spellings**, and nothing is said of the keyword. -/
theorem Format.exists_takes {format : Format} {options : List String} {choices : Choices}
    (hspelling : (options, choices) ∈ format.spellings) :
    ∃ givens, Takes options givens ∧ request? givens = none ∧ choose givens = .ok choices ∧
      ∀ given ∈ givens, given.role ≠ .keyword := by
  have hapart : ∀ value : String, Takes ["--output", value] [{ role := .output, value }] := by
    intro value steps rest hsteps
    obtain ⟨left, rfl⟩ := Nat.exists_eq_succ_of_ne_zero (Nat.ne_zero_of_lt hsteps)
    exact ⟨left, Nat.le_add_right _ 1, scanSteps_option (by decide) (by decide) rfl left⟩
  cases format with
  | json =>
      simp only [Format.spellings, List.mem_cons, List.not_mem_nil, or_false, Prod.mk.injEq]
        at hspelling
      rcases hspelling with ⟨rfl, rfl⟩ | ⟨rfl, rfl⟩ | ⟨rfl, rfl⟩ | ⟨rfl, rfl⟩
      · exact ⟨[], Takes.nil, rfl, rfl, by decide⟩
      · exact ⟨[{ role := .json }], Takes.word (by decide) (by decide) fun _ => rfl, rfl, rfl,
          by decide⟩
      · exact ⟨_, hapart "json", rfl, rfl, by decide⟩
      · exact ⟨[{ role := .output, value := "json" }],
          Takes.word (by decide) (by decide) fun _ => rfl, rfl, rfl, by decide⟩
  | table =>
      simp only [Format.spellings, List.mem_cons, List.not_mem_nil, or_false, Prod.mk.injEq]
        at hspelling
      rcases hspelling with ⟨rfl, rfl⟩ | ⟨rfl, rfl⟩
      · exact ⟨_, hapart "table", rfl, rfl, by decide⟩
      · exact ⟨[{ role := .output, value := "table" }],
          Takes.word (by decide) (by decide) fun _ => rfl, rfl, rfl, by decide⟩

/-! ## Whole calls -/

/-- A command line is understood by its options, whatever the query string. -/
theorem understand_of_takes {words : List String} {options : List Given} {choices : Choices}
    (htakes : Takes words options) (hrequest : request? options = none)
    (hchoose : choose options = .ok choices) (query : String) :
    understand (words ++ ["filter", "--", query])
      = .ok (.inr (choices, ["filter", "--", query])) := by
  have hsteps : words.length < (words ++ ["filter", "--", query]).length := by
    rw [List.length_append, List.length_cons]
    omega
  obtain ⟨left, hleft, hscan⟩ := htakes _ ["filter", "--", query] hsteps
  rw [List.length_append, List.length_cons] at hleft
  obtain ⟨left, rfl⟩ := Nat.exists_eq_succ_of_ne_zero (show left ≠ 0 by omega)
  -- The command ends the options, so nothing is left to scan.
  have hcommand : Options.scanSteps programOptions false (left + 1) ["filter", "--", query]
      = .ok { words := ["filter", "--", query] } := rfl
  rw [hcommand] at hscan
  rw [understand, Options.scan, hscan]
  simp only [Except.map, bind, Except.bind, List.append_nil, hrequest, hchoose]
  rfl

/-- **Plain calls are understood.** -/
theorem understands_readWords : Reader.Understands readWords := by
  intro format keyword query call hcall
  obtain ⟨⟨options, choices⟩, hspelling, hcall⟩ := List.mem_flatMap.1 hcall
  obtain ⟨givens, htakes, hrequest, hchoose, hothers⟩ := Format.exists_takes hspelling
  have hkey : Takes (keyword.toList.map ("--prefix=" ++ ·)) (keyGivens keyword) := by
    cases keyword with
    | none => exact Takes.nil
    | some k => exact Takes.keyword k
  have hread : ∀ words, understand words
        = .ok (.inr ({ choices with keyword }, ["filter", "--", query])) →
      readWords words = .ok (.call { choices with keyword } (.ok (.filter query))) := by
    intro words hunderstand
    rw [readWords, hunderstand]
    rfl
  simp only [List.mem_cons, List.not_mem_nil, or_false] at hcall
  rcases hcall with rfl | rfl
  · have hafter := @choose_insert keyword givens [] (by rwa [List.append_nil])
    rw [List.append_nil, List.append_nil, hchoose] at hafter
    have hnone := @request?_insert keyword givens []
    rw [List.append_nil, List.append_nil, hrequest] at hnone
    exact hread _ (understand_of_takes (htakes.append hkey) hnone hafter query)
  · have hbefore := @choose_insert keyword [] givens hothers
    rw [List.nil_append, List.nil_append, hchoose] at hbefore
    have hnone := @request?_insert keyword [] givens
    rw [List.nil_append, List.nil_append, hrequest] at hnone
    exact hread _ (understand_of_takes (hkey.append htakes) hnone hbefore query)

end FilterQuery.CommandLine
