/-
Parsing expressions.

A grammar gives each of its rules some alternatives, and each alternative some items to be found one
after the other: tokens, rules, and items repeated, left out or only looked for. Of the alternatives
the first that is found counts, so a text is never read in two ways. What is found is built into a
node, and the building may refuse the whole rule or find a fault, which ends the reading.

Two things are particular here. A rule may begin with itself: it is read first without that, and
then again and again around what it was read as before, as long as it grows. And a grammar may have
alternatives that are tried only to diagnose a text that was not understood; they describe what is
wrong about it, so their builders give faults.

The reader takes tokens from the front and asks for no token before it needs it, so what is wrong
about a token that is never looked at is not found here. The depth of the recursion is bounded by a
number; `Grammar.parse` chooses it from the number of tokens, beyond what a grammar uses that takes a
token at least every few hundred steps.
-/
import Std.Data.HashMap

set_option autoImplicit false

namespace FilterQuery

/-! ## Grammars -/

/-- What is looked for. Tokens are described by patterns, rules have names. -/
inductive Item (Pattern Name : Type) where
  | token (pattern : Pattern)
  | rule (name : Name)
  | optional (item : Item Pattern Name)
  /-- As many times as it is found, at least `least` times. -/
  | many (least : Nat) (item : Item Pattern Name)
  /-- Once or more, with a separator between each two. -/
  | separated (separator item : Item Pattern Name)
  /-- Found here, but left to be read by the items that follow. -/
  | ahead (item : Item Pattern Name)
  /-- Not found here. -/
  | notAhead (item : Item Pattern Name)
  /-- No other alternative counts if an item that follows is not found. -/
  | commit
  /-- The token read last, which is not read again. -/
  | lastToken
  | choice (alternatives : List (List (Item Pattern Name)))

/-- What was found for an item. -/
inductive Found (Token Node : Type) where
  | token (token : Token)
  | node (node : Node)
  | several (found : List (Found Token Node))
  | nothing

/-- What comes of the items of an alternative. -/
inductive Built (Node Fault : Type) where
  | node (node : Node)
  /-- The rule is not found, although the items were. -/
  | refused
  | fault (fault : Fault)

structure Grammar.Alternative (Pattern Token Name Node Fault : Type) where
  items : List (Item Pattern Name)
  build : List (Found Token Node) → Built Node Fault
  /-- Whether the alternative is tried only to diagnose a text. -/
  diagnostic : Bool := false

structure Grammar.Rule (Pattern Token Name Node Fault : Type) where
  alternatives : List (Grammar.Alternative Pattern Token Name Node Fault)
  /-- Whether what is found at a place is kept for the next time. -/
  kept : Bool := false
  /-- Whether the rule may begin with itself. -/
  grows : Bool := false
  /-- Whether nothing is diagnosed inside the rule. -/
  quiet : Bool := false

structure Grammar (Pattern Token Name Node Fault : Type) where
  rule : Name → Grammar.Rule Pattern Token Name Node Fault
  fits : Pattern → Token → Bool
  /-- What is reported when the bound on the recursion is used up. -/
  tooDeep : Fault

namespace Grammar

/-- Tokens, and what is wrong where they end. -/
structure Source (Token Fault : Type) where
  tokens : Array Token
  beyond : Fault

/-- What is known while reading. -/
structure Progress (Name Node : Type) [BEq Name] [Hashable Name] where
  /-- What was found for a rule at a place, with the place after it. -/
  kept : Std.HashMap (Name × Nat) (Option (Node × Nat)) := {}
  /-- The number of tokens asked for. -/
  reach : Nat := 0
  diagnosing : Bool := false

variable {Pattern Token Name Node Fault : Type} [BEq Name] [Hashable Name]

/-- Reading keeps track of its progress, also where it ends with a fault. -/
abbrev Reading (Name Node Fault α : Type) [BEq Name] [Hashable Name] :=
  EStateM Fault (Progress Name Node) α

/-- The token at a place. -/
def Source.look (source : Source Token Fault) (place : Nat) : Reading Name Node Fault Token := do
  modify fun p => { p with reach := max p.reach (place + 1) }
  match source.tokens[place]? with
  | some token => return token
  | none => throw source.beyond

/-- What comes of a list of items: what was found, and the place after it, or that something is
missing, and whether the reading had committed itself before. -/
inductive Outcome (Token Node : Type) where
  | found (found : List (Found Token Node)) (next : Nat)
  | missing (committed : Bool)

/-! ## Reading

Each function looks for something at a place, and gives what was found and the place after it. The
first number bounds the recursion. -/

mutual

def readItem (g : Grammar Pattern Token Name Node Fault) (source : Source Token Fault) :
    Nat → Item Pattern Name → Nat → Reading Name Node Fault (Option (Found Token Node × Nat))
  | 0, _, _ => throw g.tooDeep
  | bound + 1, item, place =>
    match item with
    | .token pattern => do
      let token ← source.look place
      return if g.fits pattern token then some (.token token, place + 1) else none
    | .rule name => do
      let found ← readRule g source bound name place
      return found.map fun (node, next) => (.node node, next)
    | .optional item => do
      let found ← readItem g source bound item place
      return some (found.getD (.nothing, place))
    | .many least item => do
      let (found, next) ← readMany g source bound [item] place
      return if least ≤ found.length then some (.several found, next) else none
    | .separated separator item => do
      match ← readItem g source bound item place with
      | none => return none
      | some (first, next) =>
        let (others, next) ← readMany g source bound [separator, item] next
        return some (.several (first :: others), next)
    | .ahead item => do
      let found ← readItem g source bound item place
      return found.map fun _ => (.nothing, place)
    | .notAhead item => do
      let found ← readItem g source bound item place
      return if found.isSome then none else some (.nothing, place)
    | .commit => return some (.nothing, place)
    | .lastToken =>
      return (source.tokens[place - 1]?).map fun token => (.token token, place)
    | .choice alternatives => readChoice g source bound alternatives place

/-- The first list of items that is found; of several items all are given. -/
def readChoice (g : Grammar Pattern Token Name Node Fault) (source : Source Token Fault) :
    Nat → List (List (Item Pattern Name)) → Nat →
      Reading Name Node Fault (Option (Found Token Node × Nat))
  | 0, _, _ => throw g.tooDeep
  | _, [], _ => return none
  | bound + 1, items :: others, place => do
    match ← readItems g source bound items place false with
    | .found [found] next => return some (found, next)
    | .found found next => return some (.several found, next)
    | .missing true => return none
    | .missing false => readChoice g source bound others place

/-- Items as many times as they are found, of which each time the last one is given. -/
def readMany (g : Grammar Pattern Token Name Node Fault) (source : Source Token Fault) :
    Nat → List (Item Pattern Name) → Nat →
      Reading Name Node Fault (List (Found Token Node) × Nat)
  | 0, _, _ => throw g.tooDeep
  | bound + 1, items, place => do
    match ← readItems g source bound items place false with
    | .missing _ => return ([], place)
    | .found found next =>
      let (others, after) ← readMany g source bound items next
      return (found.getLast?.toList ++ others, after)

/-- Items one after the other. -/
def readItems (g : Grammar Pattern Token Name Node Fault) (source : Source Token Fault) :
    Nat → List (Item Pattern Name) → Nat → (committed : Bool) →
      Reading Name Node Fault (Outcome Token Node)
  | 0, _, _, _ => throw g.tooDeep
  | _, [], place, _ => return .found [] place
  | bound + 1, item :: rest, place, committed => do
    match ← readItem g source bound item place with
    | none => return .missing committed
    | some (first, next) =>
      match ← readItems g source bound rest next (committed || item matches .commit) with
      | .found others after => return .found (first :: others) after
      | .missing committed => return .missing committed

/-- The first alternative that is found, built. -/
def readAlternatives (g : Grammar Pattern Token Name Node Fault) (source : Source Token Fault) :
    Nat → List (Alternative Pattern Token Name Node Fault) → Nat →
      Reading Name Node Fault (Option (Node × Nat))
  | 0, _, _ => throw g.tooDeep
  | _, [], _ => return none
  | bound + 1, alternative :: others, place => do
    if alternative.diagnostic && !(← get).diagnosing then
      readAlternatives g source bound others place
    else
      match ← readItems g source bound alternative.items place false with
      | .found found next =>
        match alternative.build found with
        | .node node => return some (node, next)
        | .refused => return none
        | .fault fault => throw fault
      | .missing true => return none
      | .missing false => readAlternatives g source bound others place

/-- A rule read around what it was read as before, as long as it grows. -/
def readGrowing (g : Grammar Pattern Token Name Node Fault) (source : Source Token Fault) :
    Nat → Name → Nat → Option (Node × Nat) → Reading Name Node Fault (Option (Node × Nat))
  | 0, _, _, _ => throw g.tooDeep
  | bound + 1, name, place, best => do
    modify fun p => { p with kept := p.kept.insert (name, place) best }
    match ← readAlternatives g source bound (g.rule name).alternatives place with
    | some (node, next) =>
      if (best.elim place (·.2)) < next then
        readGrowing g source bound name place (some (node, next))
      else return best
    | none => return best

def readRule (g : Grammar Pattern Token Name Node Fault) (source : Source Token Fault) :
    Nat → Name → Nat → Reading Name Node Fault (Option (Node × Nat))
  | 0, _, _ => throw g.tooDeep
  | bound + 1, name, place => do
    let rule := g.rule name
    match (← get).kept[(name, place)]? with
    | some found => return found
    | none =>
      if rule.grows then readGrowing g source bound name place none
      else
        let diagnosing := (← get).diagnosing
        if rule.quiet then modify fun p => { p with diagnosing := false }
        let found ← readAlternatives g source bound rule.alternatives place
        if rule.quiet then modify fun p => { p with diagnosing }
        if rule.kept then modify fun p => { p with kept := p.kept.insert (name, place) found }
        return found

end

/-! ## Reading a text -/

/-- What comes of reading a text. -/
inductive Parsed (Node Fault : Type) where
  | node (node : Node)
  /-- A fault, and the number of tokens asked for. -/
  | fault (fault : Fault) (reach : Nat)
  /-- The text does not follow the rule. The tokens asked for until then are counted without the
  diagnosis that followed and with it. -/
  | mismatch (reach : Nat) (diagnosed : Nat)

/-- The bound on the recursion for some number of tokens. -/
def depth (tokens : Nat) : Nat := 1000 * (tokens + 2)

/-- Reads tokens by a rule, and diagnoses them if they do not follow it. -/
def parse (g : Grammar Pattern Token Name Node Fault) (source : Source Token Fault)
    (start : Name) : Parsed Node Fault :=
  let bound := depth source.tokens.size
  match (readRule g source bound start 0).run {} with
  | .ok (some (node, _)) _ => .node node
  | .error fault p => .fault fault p.reach
  | .ok none p =>
    match (readRule g source bound start 0).run { reach := p.reach, diagnosing := true } with
    | .error fault diagnosed => .fault fault diagnosed.reach
    | .ok _ diagnosed => .mismatch p.reach diagnosed.reach

end Grammar

end FilterQuery
