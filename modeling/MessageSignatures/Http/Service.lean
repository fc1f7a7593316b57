import MessageSignatures.Http.Signing

/-!
# Services that sign and verify

A service answers requests. It is called only once it is ready. Two layers make one service of
another:

* `Service.signing` signs every request before the inner service is called. A request that cannot be
  signed is an error, and the inner service is not called.
* `Service.verifying` verifies every request and notes the id of the key on it. Whatever the fault,
  a request that does not verify is answered by the same `rejection`, and the inner service is not
  called.

A layer is ready when the inner service is. What the inner service does is left open: it runs in any
monad. The present and the randomness of a layer are those of the call.
-/

namespace MessageSignatures

namespace Http

/-- **Service**, with effects in a monad and errors of its own. -/
structure Service (m : Type → Type) (ε : Type) where
  ready : m (Except ε Unit)
  call : Request → m (Except ε Response)

/-- What goes wrong in a service behind a signing layer. -/
inductive ServiceError (ε : Type) where
  | signing (error : Error)
  | inner (error : ε)
deriving DecidableEq

/-- **Rejection.** The answer to every request that does not verify. -/
def rejection : Response where
  status := 400
  headers := [(.ofString "content-type", Text.utf8 "text/plain")]
  body := Text.utf8 "invalid required signature"

namespace Service

variable {m : Type → Type} [Monad m] {ε : Type}

/-- **Signing layer.** -/
def signing (signer : Signer) (now : Timestamp) (entropy : Nat → Entropy) (inner : Service m ε) :
    Service m (ServiceError ε) where
  ready := do return (← inner.ready).mapError .inner
  call request :=
    match request.sign signer now entropy with
    | .error e => return .error (.signing e)
    | .ok signed => do return (← inner.call signed).mapError .inner

/-- **Verifying layer.** -/
def verifying (verifier : Verifier) (now : Timestamp) (inner : Service m ε) : Service m ε where
  ready := inner.ready
  call request :=
    match request.verify verifier now with
    | .error _ => return .ok rejection
    | .ok (verified, keyId) => inner.call { verified with verifiedKeyId := some keyId }

/-- **Answering** one request: the service is called if it is ready. -/
def answer (service : Service m ε) (request : Request) : m (Except ε Response) := do
  match ← service.ready with
  | .error e => return .error e
  | .ok _ => service.call request

end Service

end Http

end MessageSignatures
