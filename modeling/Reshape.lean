import Reshape.Conversion.Converter
import Reshape.Conversion.Mapping
import Reshape.Main
import Reshape.Proofs.Conversion.Binding
import Reshape.Proofs.Conversion.Isolation
import Reshape.Proofs.Conversion.Meaning
import Reshape.Proofs.Conversion.Visits
import Reshape.Proofs.Conversion.Reading
import Reshape.Proofs.Conversion.Handling
import Reshape.Proofs.Conversion.Session
import Reshape.Proofs.Document.Binding
import Reshape.Proofs.Evaluation.Defined
import Reshape.Proofs.Document.Represents
import Reshape.Proofs.Document.WellFormed
import Reshape.Proofs.Document.RoundTrip
import Reshape.Proofs.Conversion.Defaults
import Reshape.Proofs.Conversion.Description
import Reshape.Proofs.Document.Access
import Reshape.Proofs.Conversion.Compatibility
import Reshape.Proofs.Conversion.Composition
import Reshape.Proofs.Conversion.Inversion
import Reshape.Proofs.Conversion.Mapping
import Reshape.Proofs.Shape.Document
import Reshape.Proofs.Conversion.Extension
import Reshape.Proofs.Conversion.Saving
import Reshape.Proofs.Annotation.Eviction
import Reshape.Proofs.Annotation.Priming
import Reshape.Proofs.Conversion.Answers
import Reshape.Proofs.Expr.Unambiguous
import Reshape.Proofs.Shape.RoundTrip
import Reshape.Proofs.Value.Decimal
import Reshape.Proofs.Document.Constants
import Reshape.Proofs.Evaluation.Order
import Reshape.Proofs.Evaluation.Arithmetic
import Reshape.Proofs.Evaluation.ResultType
import Reshape.Proofs.Shape.Readers
import Reshape.Proofs.Document.Nulls
