import Kindred.Main
import Kindred.Text.Position
import Kindred.Proofs.Decomposition.Cuts
import Kindred.Proofs.Decomposition.Recursion
import Kindred.Proofs.Decomposition.Coverage
import Kindred.Proofs.Decomposition.Bound
import Kindred.Proofs.Decomposition.Origins
import Kindred.Proofs.Decomposition.Translation
import Kindred.Proofs.Decomposition.Literals
import Kindred.Proofs.Template.Scanning
import Kindred.Proofs.Vocabulary.Grammar
import Kindred.Proofs.Vocabulary.Phrases
import Kindred.Proofs.Vocabulary.Reading
import Kindred.Proofs.Pattern.Greedy
import Kindred.Proofs.Rule.Application
import Kindred.Proofs.Vocabulary.English.Lineage
import Kindred.Proofs.Vocabulary.English.Cousins
import Kindred.Proofs.Tables.Changes
import Kindred.Proofs.Formatter.Explanations
import Kindred.Proofs.Lint.Warnings
import Kindred.Proofs.Lint.Rules
import Kindred.Proofs.Formatter.Braces
import Kindred.Proofs.Text.Position
import Kindred.Proofs.Vocabulary.Locality
import Kindred.Proofs.Vocabulary.Stops
import Kindred.Proofs.Vocabulary.Errors
import Kindred.Proofs.Vocabulary.Joining
import Kindred.Proofs.Text.Runs
import Kindred.Proofs.Template.Reading
import Kindred.Proofs.Rule.Reading
import Kindred.Proofs.Command.Verdicts
import Kindred.Proofs.Rule.Numerals
import Kindred.Proofs.Rule.Branches
import Kindred.Proofs.Lint.Probes
import Kindred.Proofs.Decomposition.Silence
import Kindred.Proofs.Decomposition.Segmentation
import Kindred.Proofs.Formatter.Possessives
import Kindred.Proofs.Vocabulary.English.Chains
import Kindred.Proofs.Report.Diagnostics
import Kindred.Proofs.Code.NeutralForms
import Kindred.Proofs.Lint.Duplicates
import Kindred.Proofs.Text.Ordinals
import Kindred.Proofs.Rule.Spelling
import Kindred.Proofs.Code.Mirrors
import Kindred.Proofs.Decomposition.Calls
