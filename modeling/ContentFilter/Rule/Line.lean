import ContentFilter.Host
import ContentFilter.Rule.Basic
import ContentFilter.Text.Basic

namespace ContentFilter

structure Options where
  /-- Some option names a type of resource. -/
  resource : Bool := false
  parties : Option Parties := none
  sites : Option Sites := none
  deriving DecidableEq, Repr

namespace Options

/-- Types of resources, which nothing is known of when a request is judged. -/
def resourceTypes : List Text :=
  ["script".toList, "image".toList, "background".toList, "stylesheet".toList, "object".toList,
    "xbl".toList, "ping".toList, "xmlhttprequest".toList, "object-subrequest".toList,
    "dtd".toList, "subdocument".toList, "document".toList, "other".toList, "collapse".toList]

def parties? (name : Text) : Option Parties :=
  if ["third-party".toList, "thirdparty".toList, "3p".toList].contains name then some ⟨false, true⟩
  else if ["first-party".toList, "firstparty".toList, "1p".toList].contains name then
    some ⟨true, false⟩
  else none

def addSites (o : Options) (more : Option Sites) : Options :=
  match o.sites, more with
  | _, none => o
  | none, some sites => { o with sites := some sites }
  | some known, some sites => { o with sites := some (known.append sites) }

/-- Adds an option that may be turned into its opposite. Of several on the party the last holds. -/
def addNamed (o : Options) (negated : Bool) (name : Text) : Options :=
  match parties? name with
  | some parties => { o with parties := some (if negated then parties.others else parties) }
  | none => if resourceTypes.contains name then { o with resource := true } else o

def add (o : Options) (written : Text) : Options :=
  let option := written.trim.asciiLower
  match option.stripPrefix? "domain=".toList with
  | some value => o.addSites (Sites.ofText? value)
  | none =>
    match option with
    | '~' :: name => o.addNamed true name
    | name => o.addNamed false name

def ofText (s : Text) : Options := (s.splitAll ',').foldl add {}

/-- Parts a filter from its options. A dollar sign that comes first begins none. -/
def split (filter : Text) : Text × Options :=
  match filter.splitLast '$' with
  | some (c :: pattern, options) => (c :: pattern, ofText options)
  | _ => (filter, {})

end Options

structure RejectedLine where
  line : Text
  pattern : Text
  error : PatternError
  deriving DecidableEq, Repr

namespace HidingRule

/-- Sorts a domain of a hiding rule under those that it is for, or under those that it is not for,
as all domains of an exception are. A tilde alone is passed over. -/
def addDomain (isException : Bool) (domains : List Text × List Text) (written : Text) :
    List Text × List Text :=
  match written.trim with
  | [] => domains
  | ['~'] => domains
  | '~' :: domain => (domains.1, domains.2 ++ [Text.asciiLower domain])
  | domain =>
    if isException then (domains.1, domains.2 ++ [Text.asciiLower domain])
    else (domains.1 ++ [Text.asciiLower domain], domains.2)

/-- The rule of a selector and of the domains before it. Generic rules have no exceptions. -/
def ofParts? (domains selector : Text) (isException : Bool) : Option HidingRule :=
  let selector := selector.trim
  let domains := domains.trim
  if selector.isEmpty then none
  else if domains.isEmpty then (if isException then none else some (.generic selector))
  else match (domains.splitAll ',').foldl (addDomain isException) ([], []) with
    | ([], []) => none
    | (included, excluded) => some (.perDomain selector included excluded)

end HidingRule

namespace PatternRule

/-- The rule of a filter, which stands in `line`. A filter on resource types alone is never
compiled. -/
def ofFilter (filter line : Text) : Except RejectedLine PatternRule :=
  let (pattern, options) := Options.split filter
  if options.resource && options.parties.isNone then .ok (.null filter)
  else match Pattern.compile pattern with
    | .error error => .error { line, pattern, error }
    | .ok compiled =>
      let kept : PatternFilter := { source := filter, pattern := compiled, sites := options.sites }
      match options.parties with
      | some parties => .ok (.party kept parties)
      | none => .ok (.standard kept)

end PatternRule

namespace Rule

/-- Comments begin with an exclamation mark, the head of a list with a bracket. -/
def isComment : Text → Bool
  | '!' :: _ => true
  | '[' :: _ => true
  | _ => false

/-- The rule of a network filter: a host where that says it all, or else a pattern. -/
def ofFilter (action : Action) (filter line : Text) : Except RejectedLine Rule :=
  match Host.ofFilter? filter with
  | some name => .ok (.host action name)
  | none => (PatternRule.ofFilter filter line).map (.pattern action)

/-- The rule that a line stands for. Empty lines and comments stand for none. -/
def ofLine (raw : Text) : Except RejectedLine (Option Rule) :=
  let line := raw.trim
  if line.isEmpty || isComment line then .ok none
  else match line with
    | '@' :: '@' :: rest =>
      let filter := Text.trimStart rest
      if filter.isEmpty then .ok none else (ofFilter .allow filter line).map some
    | _ =>
      match line.splitOnce ['#', '#'] with
      | some (domains, selector) =>
        .ok ((HidingRule.ofParts? domains selector false).map .hide)
      | none =>
        match line.splitOnce ['#', '@', '#'] with
        | some (domains, selector) =>
          .ok ((HidingRule.ofParts? domains selector true).map .hide)
        | none => (ofFilter .block line line).map some

def ofList (text : Text) : List Rule :=
  text.lines.filterMap fun line =>
    match ofLine line with
    | .ok rule => rule
    | .error _ => none

end Rule

end ContentFilter
