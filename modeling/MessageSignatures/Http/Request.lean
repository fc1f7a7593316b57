import MessageSignatures.Http.Headers
import MessageSignatures.Http.Uri
import MessageSignatures.OrderedMap
import MessageSignatures.RequestView

/-!
# HTTP messages

Requests and responses, as far as signatures are concerned with them.

* **Bodies** arrive in chunks, and may break off (`Body.read`).
* **View.** `Request.view` is what a signature can be about. A header value without text is recorded
  as unreadable, so it does no harm unless a signature covers it.
-/

namespace MessageSignatures

namespace Http

/-- **Body.** Chunks, and the reason for which there are no more, if they break off. -/
structure Body where
  chunks : List (List UInt8)
  failure : Option String := none
deriving DecidableEq

namespace Body

/-- The body that is known as a whole. -/
def ofOctets (octets : List UInt8) : Body :=
  { chunks := [octets] }

/-- **Reading** the whole body. -/
def read (b : Body) : Except String (List UInt8) :=
  match b.failure with
  | some reason => .error reason
  | none => .ok b.chunks.flatten

@[simp] theorem read_ofOctets (octets : List UInt8) : (ofOctets octets).read = .ok octets := by
  simp [ofOctets, read]

end Body

/-- **Version** of the protocol. -/
inductive Version where
  | http09
  | http10
  | http11
  | http2
  | http3
deriving DecidableEq

/-- **Request.** Those who handle a request may note something on it: a server that verified its
signature notes the id of the key, and `extensions` are the notes of others, by kind. -/
structure Request where
  method : String
  uri : Uri
  version : Version := .http11
  headers : Headers
  body : Body
  verifiedKeyId : Option String := none
  extensions : OrderedMap String := .empty
deriving DecidableEq

/-- Record a header field in a view. -/
def viewHeader (v : RequestView) (header : FieldName × HeaderValue) : RequestView :=
  match HeaderValue.text? header.2 with
  | some text => v.appendHeader header.1 text
  | none => v.appendUnreadable header.1

/-- **View** of a request whose body has been read. -/
def Request.view (r : Request) (body : List UInt8) : RequestView :=
  r.headers.foldl viewHeader
    { method := r.method, path := r.uri.path, query := r.uri.query
      explicitAuthority := r.uri.server.map Server.authority, body }

/-- **Response.** -/
structure Response where
  status : Nat
  headers : Headers
  body : List UInt8
deriving DecidableEq

end Http

end MessageSignatures
