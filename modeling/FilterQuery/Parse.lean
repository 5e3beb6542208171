/-
Reading the filters of a query string.

The filters are read in order and joined. The first one that is refused ends the reading: nothing is
joined then, and the outcome is the one problem. Problems of an earlier stage take precedence over
everything: if there are any, nothing is read and they are the outcome.

Reading is written so that misuse of the steps it is made of would show; that it never does is a
property of this module, not an assumption.
-/
import FilterQuery.Filter
import FilterQuery.Predicate.Canonical
import FilterQuery.Predicate.Wire

set_option autoImplicit false

namespace FilterQuery

/-- What reading gives: a predicate, or problems, or neither when there are no filters. -/
structure Outcome where
  predicate : Option Predicate := none
  problems : List Problem := []
deriving DecidableEq

namespace Outcome

/-- Whether there are no problems. -/
def ok (o : Outcome) : Bool := o.problems.isEmpty

/-- An outcome as data. -/
def toDatum (settings : Settings) (o : Outcome) : Datum :=
  .record [
    ("results", o.predicate.elim .null (·.toDatum settings)),
    ("errors", .list (o.problems.map (·.toDatum)))]

end Outcome

/-- What reading filters one after the other gives: their predicates and notes up to the first that
is refused, and that one. -/
structure Filter.Batch where
  predicates : List Predicate
  notes : List Note
  refused : Option (Filter × Refusal)
deriving DecidableEq

/-- Reads filters one after the other. -/
def Filter.readAll (settings : Settings) : List Filter → Except Misuse Filter.Batch
  | [] => .ok ⟨[], [], none⟩
  | f :: rest =>
    match f.read settings with
    | .error (.misused misuse) => .error misuse
    | .error (.refused refusal) => .ok ⟨[], [.stopped f.key refusal], some (f, refusal)⟩
    | .ok (predicate, note) => do
      let batch ← Filter.readAll settings rest
      return { batch with
        predicates := predicate :: batch.predicates
        notes := note :: batch.notes }

/-- The outcome of a batch of filters from a query string. -/
def Filter.Batch.outcome (query : String) (batch : Filter.Batch) : Except Misuse Outcome :=
  match batch.refused, batch.predicates with
  | some (f, refusal), _ =>
    .ok { problems := [.ofRefusal refusal (some query) (some f.key) f.value.toDatum] }
  | none, [] => .ok {}
  | none, predicates => do
    return { predicate := some (← Predicate.combine predicates) }

/-- The outcome of reading parameters, and the notes on its course. -/
def parseParams (settings : Settings) (query : String) (params : Params) :
    Except Misuse (Outcome × List Note) := do
  let batch ← Filter.readAll settings (Filter.ofParams settings params)
  let outcome ← batch.outcome query
  return (outcome, Filter.ignored settings params ++ batch.notes)

/-- The outcome of reading a query string, or the parameters already taken from it, and the notes on
its course. -/
def parse (settings : Settings) (query : String) (params : Option Params := none)
    (earlier : List Problem := []) : Except Misuse (Outcome × List Note) :=
  if earlier.isEmpty then
    parseParams settings query (params.getD (Params.ofQuery settings query))
  else .ok ({ problems := earlier }, [])

/-- Whether the canonical spelling of a predicate is read as an equal predicate. -/
def Predicate.readsBack (settings : Settings) (p : Predicate) : Bool :=
  match parse settings (p.toQuery settings) with
  | .ok ({ predicate := some q, .. }, _) => p.same q
  | _ => false

end FilterQuery
