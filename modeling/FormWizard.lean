import FormWizard.CompileError
import FormWizard.CompiledForm
import FormWizard.Dependency
import FormWizard.Derivation
import FormWizard.Evaluation
import FormWizard.Event
import FormWizard.Expr.Basic
import FormWizard.Expr.Drawing
import FormWizard.Expr.Folding
import FormWizard.Expr.Source
import FormWizard.Expr.Token
import FormWizard.FieldPath
import FormWizard.Form.Basic
import FormWizard.Form.Document
import FormWizard.Form.Legacy
import FormWizard.Form.Lint
import FormWizard.Formula
import FormWizard.Json.Basic
import FormWizard.Json.Number
import FormWizard.Json.Record
import FormWizard.Json.Source
import FormWizard.Main
import FormWizard.Navigation
import FormWizard.Number.Arithmetic
import FormWizard.Number.Decimal
import FormWizard.Number.Shortest
import FormWizard.Number.Written
import FormWizard.Pattern.Basic
import FormWizard.Pattern.CharClass
import FormWizard.Pattern.Flaw
import FormWizard.Pattern.Source
import FormWizard.Proofs.Derivation.Agreement
import FormWizard.Proofs.Derivation.Pass
import FormWizard.Proofs.Derivation.Reads
import FormWizard.Proofs.Derivation.Settling
import FormWizard.Proofs.Expr.Checks
import FormWizard.Proofs.Expr.Completeness
import FormWizard.Proofs.Expr.Evaluation
import FormWizard.Proofs.Expr.Failure
import FormWizard.Proofs.Expr.Folding
import FormWizard.Proofs.Expr.Grammar
import FormWizard.Proofs.Expr.NormalForm
import FormWizard.Proofs.Expr.Regrouping
import FormWizard.Proofs.Expr.Scanning
import FormWizard.Proofs.Expr.Soundness
import FormWizard.Proofs.Expr.Source
import FormWizard.Proofs.Expr.Spelling
import FormWizard.Proofs.Form.Blanking
import FormWizard.Proofs.Form.Header
import FormWizard.Proofs.Form.Leaves
import FormWizard.Proofs.Form.Legacy
import FormWizard.Proofs.Form.Paths
import FormWizard.Proofs.Form.Reading
import FormWizard.Proofs.Form.Rewriting
import FormWizard.Proofs.General
import FormWizard.Proofs.Json.Normal
import FormWizard.Proofs.Navigation.Run
import FormWizard.Proofs.Number.ReadBack
import FormWizard.Proofs.Number.Rounding
import FormWizard.Proofs.Path.Text
import FormWizard.Proofs.Script.Interleaving
import FormWizard.Proofs.Session.Errors
import FormWizard.Proofs.Session.Frame
import FormWizard.Proofs.Session.History
import FormWizard.Proofs.Session.Isolation
import FormWizard.Proofs.Session.Layout
import FormWizard.Proofs.Session.Reach
import FormWizard.Proofs.Session.Run
import FormWizard.Proofs.Session.Shape
import FormWizard.Proofs.Session.Slots
import FormWizard.Proofs.Session.Submission
import FormWizard.Proofs.Trace.Explanation
import FormWizard.Proofs.Trace.Inputs
import FormWizard.Proofs.Tree.Document
import FormWizard.Proofs.Tree.Exactness
import FormWizard.Proofs.Tree.Write
import FormWizard.Proofs.Validation.Agreement
import FormWizard.Proofs.Validation.Failures
import FormWizard.Proofs.Validation.Listing
import FormWizard.Proofs.View.Shown
import FormWizard.Registry
import FormWizard.Scope
import FormWizard.Script
import FormWizard.Session
import FormWizard.SharedState
import FormWizard.Terminal
import FormWizard.Text.Blank
import FormWizard.Text.CaseFolding
import FormWizard.Text.CaseMapping
import FormWizard.Text.CaseRange
import FormWizard.Text.Category
import FormWizard.Text.CodeSet
import FormWizard.Text.Property
import FormWizard.Text.Quoted
import FormWizard.Text.Script
import FormWizard.Text.Title
import FormWizard.Trace
import FormWizard.Validation
import FormWizard.Value
import FormWizard.ValueTree
import FormWizard.View.Basic
import FormWizard.View.Document
import FormWizard.View.PlainText
