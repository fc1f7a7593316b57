import MessageSignatures.Component.Resolution
import MessageSignatures.Signature.Params

/-!
# The signature base

The text that is signed: a line for each covered component, in order, and a last line with the
signature parameters. Lines are separated by a line feed; there is none at the end.
-/

namespace MessageSignatures

/-- **Signature base.** The covered components, resolved, and the parameters. -/
structure SignatureBase where
  components : List Component
  params : SignatureParams
deriving DecidableEq

namespace SignatureBase

/-- **Base of a request.** Every covered component has to have a value; the first that has none is
the fault. -/
def build (v : RequestView) (params : SignatureParams) : Except Error SignatureBase :=
  (params.covered.mapM v.resolve).map fun components => ⟨components, params⟩

/-- The line with the signature parameters. -/
def paramsLine (params : SignatureParams) : String :=
  "\"@signature-params\": " ++ params.baseText

/-- **Text** of the base. -/
def text (b : SignatureBase) : String :=
  String.join (b.components.map fun c => c.line ++ "\n") ++ paramsLine b.params

/-- The octets that are signed. -/
def octets (b : SignatureBase) : List UInt8 :=
  Text.utf8 b.text

end SignatureBase

end MessageSignatures
