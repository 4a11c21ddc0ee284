import SqlDialects.Main
import SqlDialects.Document.Syntax
import SqlDialects.Sql.Shorthand
import SqlDialects.Proofs.Text.Constant
import SqlDialects.Proofs.Draft.Vocabulary
import SqlDialects.Proofs.Draft.Clauses
import SqlDialects.Proofs.CommonTable.Declared
import SqlDialects.Proofs.CommonTable.Hoisting
import SqlDialects.Proofs.Condition.Brackets
import SqlDialects.Proofs.Placeholder.LockStep
import SqlDialects.Proofs.Placeholder.QuestionMarks
import SqlDialects.Proofs.Condition.Canonical
import SqlDialects.Proofs.Condition.Reading
import SqlDialects.Proofs.Row.Exists
import SqlDialects.Proofs.CommonTable.Resolution
import SqlDialects.Proofs.CommonTable.Inline
import SqlDialects.Proofs.Correspondence.Clauses
import SqlDialects.Proofs.Correspondence.Comparisons
import SqlDialects.Proofs.Correspondence.Forms
import SqlDialects.Proofs.Correspondence.MultiValued
import SqlDialects.Proofs.Correspondence.Statements
import SqlDialects.Proofs.Translation.Baseline
import SqlDialects.Proofs.Translation.Lengths
import SqlDialects.Proofs.Marshal.Arrays
import SqlDialects.Proofs.Marshal.RoundTrip
import SqlDialects.Proofs.Marshal.Routes
import SqlDialects.Proofs.Marshal.Cache
import SqlDialects.Proofs.Draft.Frame
import SqlDialects.Proofs.Translation.Arrays
import SqlDialects.Proofs.Row.Capture
import SqlDialects.Proofs.Translation.Modes
import SqlDialects.Proofs.Row.Membership
import SqlDialects.Proofs.Row.Mismatch
import SqlDialects.Proofs.Translation.Elements
import SqlDialects.Proofs.Translation.Writable
import SqlDialects.Proofs.Test.Rows
import SqlDialects.Proofs.Test.NullSafe
import SqlDialects.Proofs.CommonTable.SearchPath
import SqlDialects.Proofs.Choice.Results
import SqlDialects.Proofs.Placeholder.Casts
import SqlDialects.Proofs.SetOperation.Structure
import SqlDialects.Proofs.Number.Grammar
import SqlDialects.Proofs.Number.Rounding
import SqlDialects.Proofs.Value.Families
import SqlDialects.Proofs.Value.Integers
import SqlDialects.Proofs.Sort.Order
import SqlDialects.Proofs.Sort.Layout
import SqlDialects.Proofs.Settings.Expansion
import SqlDialects.Proofs.Text.Quoting
