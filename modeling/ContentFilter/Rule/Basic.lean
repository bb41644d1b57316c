import ContentFilter.Host
import ContentFilter.Pattern
import ContentFilter.Request

namespace ContentFilter

structure Sites where
  included : List Text := []
  excluded : List Text := []
  deriving DecidableEq, Repr

namespace Sites

/-- Adds a domain as it is written, with a tilde before it if it is excepted. What is no domain
name is passed over. -/
def addWritten (sites : Sites) (written : Text) : Sites :=
  match written.trim with
  | [] => sites
  | '~' :: name =>
    match Host.normalize? name with
    | some domain => { sites with excluded := sites.excluded ++ [domain] }
    | none => sites
  | name =>
    match Host.normalize? name with
    | some domain => { sites with included := sites.included ++ [domain] }
    | none => sites

/-- Reads a list of domains with bars between them; nothing if no domain is in it. -/
def ofText? (value : Text) : Option Sites :=
  let sites := (value.splitAll '|').foldl addWritten {}
  if sites.included.isEmpty && sites.excluded.isEmpty then none else some sites

def append (s t : Sites) : Sites :=
  { included := s.included ++ t.included, excluded := s.excluded ++ t.excluded }

/-- Pages of these sites: under a named domain, if any is named, and under no excepted one. -/
def allows (sites : Sites) (host : Text) : Bool :=
  let domains := Host.suffixes host.asciiLower
  (sites.included.isEmpty || domains.any sites.included.contains) &&
    !domains.any sites.excluded.contains

end Sites

inductive Action
  | allow | block
  deriving DecidableEq, Repr

namespace Action

def ofFilter : Text → Action
  | '@' :: '@' :: _ => .allow
  | _ => .block

end Action

structure Parties where
  first : Bool
  third : Bool
  deriving DecidableEq, Repr

namespace Parties

def has (p : Parties) : Party → Bool
  | .first => p.first
  | .third => p.third

def others (p : Parties) : Parties := ⟨!p.first, !p.third⟩

end Parties

structure PatternFilter where
  source : Text
  pattern : Pattern
  sites : Option Sites := none
  deriving DecidableEq, Repr

def PatternFilter.accepts (f : PatternFilter) (r : Request) : Bool :=
  f.sites.all (·.allows r.site) && f.pattern.occursIn r.lowerUrl

inductive PatternRule
  | standard (filter : PatternFilter)
  | party (filter : PatternFilter) (parties : Parties)
  /-- A filter on what is not known of a request. It matches nothing. -/
  | null (source : Text)
  deriving DecidableEq, Repr

namespace PatternRule

def accepts : PatternRule → Request → Bool
  | standard filter, r => filter.accepts r
  | party filter parties, r => parties.has r.party && filter.accepts r
  | null _, _ => false

/-- The text of a rule, without the mark of an exception. -/
def source : PatternRule → Text
  | standard filter => filter.source
  | party filter _ => filter.source
  | null source => source

def isNull : PatternRule → Bool
  | null _ => true
  | _ => false

end PatternRule

inductive HidingRule
  | generic (selector : Text)
  | perDomain (selector : Text) (included excluded : List Text)
  deriving DecidableEq, Repr

inductive Rule
  | host (action : Action) (host : Text)
  | pattern (action : Action) (rule : PatternRule)
  | hide (rule : HidingRule)
  deriving DecidableEq, Repr

namespace Rule

def action? : Rule → Option Action
  | host action _ => some action
  | pattern action _ => some action
  | hide _ => none

def isNull : Rule → Bool
  | pattern _ rule => rule.isNull
  | _ => false

end Rule

end ContentFilter
