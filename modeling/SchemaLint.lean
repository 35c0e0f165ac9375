import SchemaLint.Command
import SchemaLint.Service
import SchemaLint.Settings.Session
import SchemaLint.Proofs.Comment.Segmentation
import SchemaLint.Proofs.Lint.Continuation
import SchemaLint.Proofs.Lint.Insertion
import SchemaLint.Proofs.Lint.Order
import SchemaLint.Proofs.Lint.Pieces
import SchemaLint.Proofs.Scan.Run
import SchemaLint.Proofs.Text.Utf8
import SchemaLint.Proofs.Decision
import SchemaLint.Proofs.Lint.LineEnds
import SchemaLint.Proofs.Rule.Coverage
import SchemaLint.Proofs.Rule.Regex
import SchemaLint.Proofs.Position
import SchemaLint.Proofs.Collection
import SchemaLint.Proofs.Command.Verdict
import SchemaLint.Proofs.Comment.Openers
import SchemaLint.Proofs.Comment.Regex
import SchemaLint.Proofs.Lint.Similar
import SchemaLint.Proofs.Lint.CommentContents
import SchemaLint.Proofs.Collection.Listing
import SchemaLint.Proofs.Failure.Detail
import SchemaLint.Proofs.Command.Output
import SchemaLint.Proofs.Numeral
import SchemaLint.Proofs.Settings.Limit
import SchemaLint.Proofs.Service.Classification
import SchemaLint.Proofs.Service.Contents
import SchemaLint.Proofs.Service.Failures
import SchemaLint.Proofs.Service.UploadName
