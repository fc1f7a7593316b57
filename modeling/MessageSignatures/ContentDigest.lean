import MessageSignatures.Sha2
import MessageSignatures.StructuredField.Parser
import MessageSignatures.StructuredField.Printer

/-!
# The digest of the body

A request that is signed carries the SHA-512 digest of its body in the field `content-digest`, so
that a signature over the field is a signature over the body. The field is a dictionary; members for
other digests do not count.
-/

namespace MessageSignatures

namespace ContentDigest

/-- The key of the digest in the field. -/
def key : String := "sha-512"

/-- **Writing.** The value of the field for a body. -/
def compute (body : List UInt8) : String :=
  key ++ "=" ++ StructuredField.octetsText (Sha2.sha512 body)

/-- **Checking.** Whether the value of a field holds the digest of a body. A value that cannot be
read, or that has no such digest, never does. -/
def verify (body : List UInt8) (value : String) : Bool :=
  match StructuredField.parseDictionary value with
  | none => false
  | some d =>
    match d.get? key with
    | some (.item ⟨.octets digest, _⟩) => digest == Sha2.sha512 body
    | _ => false

end ContentDigest

end MessageSignatures
