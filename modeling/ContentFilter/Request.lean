import ContentFilter.Text.Basic
import ContentFilter.Unicode.Casing

namespace ContentFilter

inductive Scheme
  | http | https | ws | wss | data | ftp
  deriving DecidableEq, Repr

namespace Scheme

def hierarchical : List (Text × Scheme) :=
  [("http".toList, .http), ("https".toList, .https), ("ws".toList, .ws), ("wss".toList, .wss),
    ("ftp".toList, .ftp)]

def isFiltered : Scheme → Bool
  | .http | .https => true
  | _ => false

end Scheme

namespace Url

def scheme? (url : Text) : Option Scheme :=
  match url.splitOnce [':'] with
  | none => none
  | some (name, rest) =>
    if name.equalIgnoringCase "data".toList then some .data
    else if !(['/', '/'].isPrefixOf rest) then none
    else (Scheme.hierarchical.find? fun entry => name.equalIgnoringCase entry.1).map (·.2)

def endsAuthority (c : Char) : Bool := c == '/' || c == '?' || c == '#'

def authority? (url : Text) : Option Text :=
  (url.splitOnce [':', '/', '/']).map fun (_, rest) => rest.takeWhile (!endsAuthority ·)

def host? (url : Text) : Option Text :=
  match authority? url with
  | none => none
  | some authority =>
    let hostAndPort :=
      match authority.splitLast '@' with
      | some (_, rest) => rest
      | none => authority
    match hostAndPort with
    | '[' :: inner => (Text.splitOnce inner [']']).map (·.1)
    | _ => some (hostAndPort.takeWhile (· != ':'))

/-- The host of a URL; a text that is no URL is a host already. -/
def hostOf (urlOrHost : Text) : Text :=
  (host? urlOrHost).getD (urlOrHost.trim.dropEndWhile (· == '/'))

end Url

structure Request where
  url : Text
  /-- The host of the page; empty when the request opens a page itself. -/
  site : Text := []
  referer : Text := []
  /-- Hosts whose mention in the referer exempts a request from filtering. -/
  exemptReferers : List Text := []
  /-- The URL in small letters, which patterns look at. Kept so that it is found once only. -/
  lowerUrl : Text := url.lower
  lowerUrl_eq : lowerUrl = url.lower := by rfl

inductive Party
  | first | third
  deriving DecidableEq, Repr

namespace Request

def of (url site referer : Text) (exemptReferers : List Text) : Request :=
  { url, site, referer, exemptReferers }

def host (r : Request) : Text := (Url.host? r.url).getD []

def scheme? (r : Request) : Option Scheme := Url.scheme? r.url

def isFiltered (r : Request) : Bool := r.scheme?.any Scheme.isFiltered

/-- Third-party requests go to another host than that of the page, both being known. -/
def party (r : Request) : Party :=
  if r.site.isEmpty || r.host.isEmpty || r.host.equalIgnoringCase r.site then .first else .third

def isExempt (r : Request) : Bool :=
  !r.referer.isEmpty &&
    r.exemptReferers.any fun host => !host.isEmpty && r.referer.hasInfix host

end Request

end ContentFilter
