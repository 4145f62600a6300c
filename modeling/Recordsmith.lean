import Recordsmith.Companion.Artifact
import Recordsmith.Derive.Expansion
import Recordsmith.Generation.Batch
import Recordsmith.Generation.Directory
import Recordsmith.Proofs.Code.Evaluation
import Recordsmith.Proofs.Outcome
import Recordsmith.Proofs.Code.Members
import Recordsmith.Proofs.Companion.Files
import Recordsmith.Proofs.Companion.Gathering
import Recordsmith.Proofs.Companion.Laws
import Recordsmith.Proofs.Derive.Expansions
import Recordsmith.Proofs.Derive.FieldReading
import Recordsmith.Proofs.Generation.Accounts
import Recordsmith.Proofs.Generation.Batches
import Recordsmith.Proofs.Generation.FieldNames
import Recordsmith.Proofs.Generation.Placement
import Recordsmith.Proofs.Record.QualifiedNames
import Recordsmith.Proofs.Companion.Lenses
import Recordsmith.Proofs.Schema.Runs
import Recordsmith.Proofs.TypeExpr.Rejecting
import Recordsmith.Proofs.TypeExpr.Rendering
import Recordsmith.Record.Describe
import Recordsmith.Schema.Inspection
import Recordsmith.Schema.Samples
import Recordsmith.Source.Document
import Recordsmith.Source.Read
import Recordsmith.Token.Render
import Recordsmith.Wire.Decode
import Recordsmith.Wire.Encode
import Recordsmith.Wire.Number
import Recordsmith.Proofs.Record.Refusing
import Recordsmith.Proofs.Checking
import Recordsmith.Proofs.TypeExpr.Lowering
import Recordsmith.Proofs.Companion.Checks
import Recordsmith.Proofs.Code.Typing
import Recordsmith.Proofs.Companion.Typing
import Recordsmith.Proofs.Companion.Agreement
import Recordsmith.Proofs.TypeExpr.Blanks
import Recordsmith.Proofs.Code.TypeTokens
import Recordsmith.Proofs.TypeExpr.Decoding
import Recordsmith.Proofs.Generation.Blame
import Recordsmith.Proofs.Derive.Mistakes
import Recordsmith.Proofs.Wire.RoundTrip
import Recordsmith.Proofs.Derive.Diagnostics
import Recordsmith.Proofs.Generation.Log
import Recordsmith.Proofs.Derive.Attributes
