import ObjectRole.Json.Pointer
import ObjectRole.Main
import ObjectRole.Proofs.Api.Addressed
import ObjectRole.Proofs.Api.Coherent
import ObjectRole.Proofs.Api.DeclarationOrder
import ObjectRole.Proofs.Api.Folds
import ObjectRole.Proofs.Api.Identifier
import ObjectRole.Proofs.Api.OperationIds
import ObjectRole.Proofs.Api.Patch
import ObjectRole.Proofs.Api.Standalone
import ObjectRole.Proofs.Model.Consistent
import ObjectRole.Proofs.Tables.Labelled
import ObjectRole.Proofs.Tables.Nearest
import ObjectRole.Proofs.Api.Orderly
import ObjectRole.Proofs.Api.RoundTrip
import ObjectRole.Proofs.Api.Envelopes
import ObjectRole.Proofs.Model.Relationships
import ObjectRole.Proofs.Api.Merges
import ObjectRole.Proofs.Model.Cycles
import ObjectRole.Proofs.Schema.FixedPoint
import ObjectRole.Proofs.Tables.Depth
import ObjectRole.Proofs.Tables.AnyOrder
import ObjectRole.Proofs.Model.Shapes
import ObjectRole.Proofs.Model.ReadingEnds
import ObjectRole.Proofs.Tables.Attached
import ObjectRole.Proofs.Reading.Segments
import ObjectRole.Proofs.Naming.Prefixes
import ObjectRole.Proofs.Tables.Named
import ObjectRole.Proofs.Api.ErrorSamples
import ObjectRole.Proofs.Digest
import ObjectRole.Proofs.Api.Wrapped
import ObjectRole.Proofs.Api.Relabelled
import ObjectRole.Proofs.Tables.ObjectSpan
