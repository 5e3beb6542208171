import FilterQuery.Main
import FilterQuery.Proofs.CommandLine
import FilterQuery.Proofs.Journal
import FilterQuery.Proofs.Marking
import FilterQuery.Proofs.Survival
import FilterQuery.Proofs.Wire
import FilterQuery.Proofs.WrittenQuery
import FilterQuery.Proofs.Gathering
import FilterQuery.Proofs.Runs
import FilterQuery.Proofs.Extraction
import FilterQuery.Proofs.Verdict
import FilterQuery.Proofs.Coercion
import FilterQuery.Proofs.Joining
import FilterQuery.Proofs.NormalKey
import FilterQuery.Proofs.Renaming
import FilterQuery.Proofs.Validation
import FilterQuery.Proofs.Drawing
import FilterQuery.Proofs.Equality
