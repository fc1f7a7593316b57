import MessageSignatures.Http.Service
import MessageSignatures.Key.Private
import MessageSignatures.Key.Shared
import MessageSignatures.Proofs.StructuredField.WellFormed
import MessageSignatures.Proofs.StructuredField.RoundTrip
import MessageSignatures.Proofs.Except
import MessageSignatures.Proofs.Component
import MessageSignatures.Proofs.Signature.Declaration
import MessageSignatures.Proofs.Signature.Emission
import MessageSignatures.Proofs.ContentDigest
import MessageSignatures.Proofs.Signer
import MessageSignatures.Proofs.Exchange
import MessageSignatures.Proofs.Tampering
import MessageSignatures.Proofs.Verifier.BodyDigest
import MessageSignatures.Proofs.StructuredField.Range
import MessageSignatures.Proofs.Signer.Readable
import MessageSignatures.Proofs.Signer.Applied
import MessageSignatures.Proofs.Verifier.OtherSignatures
import MessageSignatures.Proofs.Signature.Denotation
import MessageSignatures.Proofs.StructuredField.Remainder
import MessageSignatures.Proofs.StructuredField.Spacing
import MessageSignatures.Proofs.Verifier.SignedDigest
import MessageSignatures.Proofs.Http.View
import MessageSignatures.Proofs.Http.Signing
import MessageSignatures.Proofs.Http.Service
import MessageSignatures.Proofs.Http.Introspection
import MessageSignatures.Proofs.Relevance
import MessageSignatures.Proofs.Signer.Outcome
import MessageSignatures.Proofs.Signer.Again
import MessageSignatures.Proofs.Signature.Identifiers
import MessageSignatures.Proofs.StructuredField.Joined
import MessageSignatures.Proofs.ContentDigest.Joined
import MessageSignatures.Proofs.Component.Names
import MessageSignatures.Proofs.Component.Sources
import MessageSignatures.Proofs.RequestView
import MessageSignatures.Proofs.Der
import MessageSignatures.Proofs.Key.Binding
import MessageSignatures.Proofs.Key.Seed
import MessageSignatures.Proofs.Signature.ByLabel
import MessageSignatures.Proofs.Http.ContentDigest
import MessageSignatures.Proofs.Signer.Construction
