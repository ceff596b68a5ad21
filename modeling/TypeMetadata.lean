import TypeMetadata.Proofs.Catalog.Growth
import TypeMetadata.Proofs.Catalog.History
import TypeMetadata.Proofs.Catalog.Transcript
import TypeMetadata.Proofs.Config.Decoding
import TypeMetadata.Proofs.Config.Validity
import TypeMetadata.Proofs.Descriptor.Coherence
import TypeMetadata.Proofs.Descriptor.HookComplaint
import TypeMetadata.Proofs.Descriptor.Permanence
import TypeMetadata.Proofs.Dispatch.Refusal
import TypeMetadata.Proofs.Extraction.Answers
import TypeMetadata.Proofs.Extraction.Contribution
import TypeMetadata.Proofs.Extraction.Interfaces
import TypeMetadata.Proofs.Extraction.InvokerNames
import TypeMetadata.Proofs.Extraction.Namespaces
import TypeMetadata.Proofs.Extraction.Reordering
import TypeMetadata.Proofs.Identifier.Claims
import TypeMetadata.Proofs.Identifier.ClosedForm
import TypeMetadata.Proofs.Identifier.OnePass
import TypeMetadata.Proofs.Program.Accessibility
import TypeMetadata.Proofs.Program.Lookup
import TypeMetadata.Proofs.Program.NestedNames
import TypeMetadata.Proofs.Program.Outwards
import TypeMetadata.Proofs.Program.Ownership
import TypeMetadata.Proofs.Program.TypeParameters
import TypeMetadata.Release
