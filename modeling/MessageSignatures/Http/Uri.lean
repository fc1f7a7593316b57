/-!
# Request targets

What a request is for, as an HTTP message names it.

* **Forms.** A path with an optional query; the same behind a scheme and an authority; an authority
  by itself; or an asterisk, which is kept as a path.
* **Normal form.** The schemes `http` and `https` are in lower case; any other scheme and the
  authority are as they came. Behind an authority no path is the path `/`. A fragment is dropped.
-/

namespace MessageSignatures

namespace Http

/-- **Server.** An authority, behind a scheme unless it stands by itself. -/
structure Server where
  scheme : Option String
  authority : String
deriving DecidableEq

/-- **Request target.** The server, if one is named, the path and the query. -/
structure Uri where
  server : Option Server
  path : String
  query : Option String
deriving DecidableEq

namespace Uri

/-- The characters up to the first of some. -/
def before (ends : List Char) (cs : List Char) : List Char :=
  cs.takeWhile fun c => !ends.contains c

/-- The characters from the first of some on. -/
def since (ends : List Char) (cs : List Char) : List Char :=
  cs.dropWhile fun c => !ends.contains c

/-- A target with a path and a query, as they stand in a text without a fragment. -/
def ofPathAndQuery (server : Option Server) (cs : List Char) : Uri where
  server := server
  path := String.ofList (before ['?'] cs)
  query := match since ['?'] cs with
    | [] => none
    | _ :: query => some (String.ofList query)

/-- The scheme, in lower case if it is one of HTTP. -/
def normalScheme (scheme : String) : String :=
  if scheme.toLower ∈ ["http", "https"] then scheme.toLower else scheme

/-- A target that is an authority by itself: all of the text, and neither path nor query. -/
def ofAuthority (s : String) : Option Uri :=
  if s.isEmpty || s.toList.any (['/', '?', '#'].contains ·) then none
  else some ⟨some ⟨none, s⟩, "", none⟩

/-- **Reading** a target. A text that is none of the forms is no target. -/
def ofString (s : String) : Option Uri :=
  -- a fragment is no part of what is asked of the server
  match before ['#'] s.toList with
  | ['*'] => some ⟨none, "*", none⟩
  | '/' :: cs => some (ofPathAndQuery none ('/' :: cs))
  | cs =>
    match since [':'] cs with
    | ':' :: '/' :: '/' :: rest =>
      let server : Server := ⟨some (normalScheme (String.ofList (before [':'] cs))),
        String.ofList (before ['/', '?'] rest)⟩
      -- behind an authority the path begins with a slash, whether it is written or not
      match since ['/', '?'] rest with
      | '/' :: target => some (ofPathAndQuery (some server) ('/' :: target))
      | target => some (ofPathAndQuery (some server) ('/' :: target))
    | _ => ofAuthority s

/-- **Text** of a target. -/
def text (u : Uri) : String :=
  (match u.server with
    | some ⟨some scheme, authority⟩ => scheme ++ "://" ++ authority
    | some ⟨none, authority⟩ => authority
    | none => "")
    ++ u.path ++ (match u.query with | some query => "?" ++ query | none => "")

end Uri

end Http

end MessageSignatures
