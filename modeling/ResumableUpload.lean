import ResumableUpload.Description
import ResumableUpload.Proofs.Addresses
import ResumableUpload.Proofs.Admission
import ResumableUpload.Proofs.Announcements
import ResumableUpload.Proofs.Ceilings
import ResumableUpload.Proofs.Checksums
import ResumableUpload.Proofs.Concatenations
import ResumableUpload.Proofs.Copies
import ResumableUpload.Proofs.CreationWithBody
import ResumableUpload.Proofs.Deferral
import ResumableUpload.Proofs.Failures
import ResumableUpload.Proofs.Growth
import ResumableUpload.Proofs.Independence
import ResumableUpload.Proofs.Leasing
import ResumableUpload.Proofs.Lifetimes
import ResumableUpload.Proofs.Metadata
import ResumableUpload.Proofs.Metadata.Grammar
import ResumableUpload.Proofs.Metadata.Uniqueness
import ResumableUpload.Proofs.Negotiation
import ResumableUpload.Proofs.Overdue
import ResumableUpload.Proofs.Overruns
import ResumableUpload.Proofs.Pieces
import ResumableUpload.Proofs.Provenance
import ResumableUpload.Proofs.References
import ResumableUpload.Proofs.Rejoining
import ResumableUpload.Proofs.Remains
import ResumableUpload.Proofs.Responses
import ResumableUpload.Proofs.Resumption
import ResumableUpload.Proofs.Routes
import ResumableUpload.Proofs.Serialization
import ResumableUpload.Proofs.Sizes
import ResumableUpload.Proofs.Sweeps
import ResumableUpload.Proofs.Tenures
import ResumableUpload.Proofs.Visibility
import ResumableUpload.Proofs.WriteCalls
