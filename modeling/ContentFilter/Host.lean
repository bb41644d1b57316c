import ContentFilter.Text.Basic
/-!
Host names, the filters that stand for one host, and registered hosts. Domains are approximated by
their labels alone. A host lies under every suffix of it that begins after a dot and still holds a
dot; a bare top-level label is never such a domain.
-/
namespace ContentFilter.Host

def isNameChar (c : Char) : Bool :=
  isAsciiLetter c || isAsciiDigit c || c == '.' || c == '-' || c == '_'

/-- The canonical form of a name as written in a rule: no white space or dots around it, only name
characters, no empty label, small letters. -/
def normalize? (written : Text) : Option Text :=
  let name := written.trim.dropAroundWhile (· == '.')
  if name.isEmpty || !name.all isNameChar || name.hasInfix ['.', '.'] then none
  else some name.asciiLower

/-- What follows the first dot, unless the host ends there. -/
def parent? : Text → Option Text
  | [] => none
  | c :: r => if c = '.' then (if r.isEmpty then none else some r) else parent? r

/-- The suffixes after a dot that hold a dot themselves, longest first. -/
def parents : Text → List Text
  | [] => []
  | c :: r => if c = '.' ∧ '.' ∈ r then r :: parents r else parents r

/-- The domains a host lies under, the host itself first and the most general last. -/
def suffixes : Text → List Text
  | [] => []
  | host => host :: parents host

def extend (domain : Text) : List Text → List Text
  | [] => []
  | label :: labels => (label ++ '.' :: domain) :: extend (label ++ '.' :: domain) labels

/-- The domains a host lies under, from its last two labels to all of them. -/
def chain (host : Text) : List Text :=
  match (host.splitAll '.').reverse with
  | [] => []
  | [label] => if label.isEmpty then [] else [label]
  | label :: labels => extend label labels

/-- A host as it is looked up: in small letters and without the dots of the root. -/
def lookupForm (host : Text) : Text :=
  host.asciiLower.dropEndWhile (· == '.')

def IsUnder (host domain : Text) : Prop :=
  host = domain ∨ ('.' :: domain) <:+ host

instance (host domain : Text) : Decidable (IsUnder host domain) :=
  inferInstanceAs (Decidable (_ ∨ _))

/-- A number up to 255 in at most three digits and without a leading zero. -/
def isOctet (s : Text) : Bool :=
  !s.isEmpty && s.length ≤ 3 && s.all isAsciiDigit && (s.length == 1 || s.head? != some '0') &&
    s.toNatBase 10 ≤ 255

def isIPv4 (s : Text) : Bool :=
  let octets := s.splitAll '.'
  octets.length == 4 && octets.all isOctet

def isGroup (s : Text) : Bool :=
  !s.isEmpty && s.length ≤ 4 && s.all isHexDigit

/-- How many groups the parts stand for, if they are groups, the last one perhaps four octets. -/
def groupCount? : List Text → Option Nat
  | [] => some 0
  | [part] => if isGroup part then some 1 else if isIPv4 part then some 2 else none
  | part :: parts => if isGroup part then (groupCount? parts).map (· + 1) else none

def sideParts (s : Text) : List Text :=
  if s.isEmpty then [] else s.splitAll ':'

def isIPv6 (s : Text) : Bool :=
  match s.splitOnce [':', ':'] with
  | none => groupCount? (s.splitAll ':') == some 8
  | some (front, back) =>
    (sideParts front).all isGroup &&
      match groupCount? (sideParts back) with
      | none => false
      | some n => (sideParts front).length + n ≤ 7

def isAddress (s : Text) : Bool := isIPv4 s || isIPv6 s

def isPatternChar (c : Char) : Bool := ['/', '*', '^', '|', ':', '?'].contains c

def dotted? (written : Text) : Option Text :=
  (normalize? written).filter (·.contains '.')

def ofHostsLine? (line : Text) : Option Text :=
  match line.words with
  | [address, name] => if isAddress address then dotted? name else none
  | _ => none

/-- The host that a filter stands for, if it stands for a host alone. One exception mark `@@`
before it is passed over. -/
def ofFilter? (written : Text) : Option Text :=
  let filter := written.trim
  let filter := (filter.stripPrefix? ['@', '@']).getD filter
  if filter.contains '$' then none
  else match filter.stripPrefix? ['|', '|'] with
    | some rest =>
      match rest.stripLast? '^' with
      | some name => if name.any isPatternChar then none else dotted? name
      | none => none
    | none => ofHostsLine? filter

structure Registry where
  /-- The names that a look-up finds, the newest first. -/
  names : List Text := []
  /-- How many hosts were registered, each time counted. -/
  size : Nat := 0
  coversSubdomains : Bool := false
  deriving DecidableEq, Repr

namespace Registry

def exact : Registry := {}

def withSubdomains : Registry := { coversSubdomains := true }

def wwwPrefix : Text := ['w', 'w', 'w', '.']

/-- The names that stand for a host: itself, and with `www.` before it unless it has that. -/
def namesOf (host : Text) : List Text :=
  if wwwPrefix.isPrefixOf host then [host] else [wwwPrefix ++ host, host]

def insert (r : Registry) (host : Text) : Registry :=
  { r with names := namesOf host ++ r.names, size := r.size + 1 }

def insertFilter? (r : Registry) (filter : Text) : Option Registry :=
  (ofFilter? filter).map r.insert

def contains (r : Registry) (host : Text) : Bool := r.names.contains host

def isEmpty (r : Registry) : Bool := r.size == 0

def covers (r : Registry) (host : Text) : Bool :=
  if host.isEmpty || r.names.isEmpty then false
  else if r.coversSubdomains then (suffixes (lookupForm host)).any r.contains
  else r.contains (lookupForm host)

end Registry

end ContentFilter.Host
