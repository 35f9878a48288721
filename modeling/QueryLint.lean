import QueryLint.Linter.Trace
import QueryLint.Main
import QueryLint.Proofs.Input
import QueryLint.Proofs.Report
import QueryLint.Rule.Scripted
import QueryLint.Proofs.Isolation
import QueryLint.Proofs.Descent
import QueryLint.Proofs.Checked
import QueryLint.Proofs.Vocabulary
import QueryLint.Proofs.Screening
import QueryLint.Proofs.Tightening
import QueryLint.Proofs.Silencing
import QueryLint.Proofs.Reach
import QueryLint.Proofs.Errors
import QueryLint.Proofs.Faults
import QueryLint.Proofs.Keys
import QueryLint.Proofs.Layering
import QueryLint.Proofs.History
import QueryLint.Proofs.Inlining
import QueryLint.Proofs.Rearrangement
import QueryLint.Proofs.Gist
import QueryLint.Proofs.Invariance
import QueryLint.Proofs.Disabling
import QueryLint.Proofs.Loading
import QueryLint.Proofs.Session
import QueryLint.Proofs.Ownership
import QueryLint.Proofs.Formatting
import QueryLint.Proofs.Failures
import QueryLint.Proofs.Display
import QueryLint.Proofs.Variables
import QueryLint.Proofs.Reentry
import QueryLint.Proofs.Occurrences
import QueryLint.Proofs.FieldDepth
import QueryLint.Proofs.Signs
import QueryLint.Proofs.WholeWords
import QueryLint.Proofs.ValueFindings
import QueryLint.Proofs.Handover
import QueryLint.Proofs.Building
import QueryLint.Proofs.Filling
import QueryLint.Proofs.SourceOrder
import QueryLint.Proofs.Locality
import QueryLint.Proofs.SourceLines
import QueryLint.Proofs.LineEndings
import QueryLint.Proofs.Layout
import QueryLint.Proofs.LineLength
import QueryLint.Proofs.Wrapping
import QueryLint.Proofs.Verbatim
import QueryLint.Document.Tree
import QueryLint.Proofs.Preorder
import QueryLint.Proofs.Duplicates
import QueryLint.Proofs.Aliases
