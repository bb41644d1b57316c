import ContentFilter.Host
import ContentFilter.Rule.Basic

namespace ContentFilter

/-- Selectors in the order of their registration, those for a domain with the domain. -/
structure HidingStore where
  generic : Array Text := #[]
  perDomain : Array (Text × Text) := #[]
  /-- Selectors that must not be hidden on a domain. -/
  exempt : Array (Text × Text) := #[]
  deriving DecidableEq, Repr

namespace HidingStore

def addGeneric (h : HidingStore) (selector : Text) : HidingStore :=
  { h with generic := h.generic.push selector }

def addPerDomain (h : HidingStore) (domain selector : Text) : HidingStore :=
  { h with perDomain := h.perDomain.push (domain, selector) }

def addExempt (h : HidingStore) (domain selector : Text) : HidingStore :=
  { h with exempt := h.exempt.push (domain, selector) }

def insert (h : HidingStore) : HidingRule → HidingStore
  | .generic selector => h.addGeneric selector
  | .perDomain selector included excluded =>
    let h := included.foldl (fun h domain => h.addPerDomain domain selector) h
    excluded.foldl (fun h domain => h.addExempt domain selector) h

def isEmpty (h : HidingStore) : Bool := h.generic.isEmpty && h.perDomain.isEmpty && h.exempt.isEmpty

def forDomain (table : Array (Text × Text)) (domain : Text) : List Text :=
  (table.toList.filter (·.1 == domain)).map (·.2)

def domainSelectors (h : HidingStore) (chain : List Text) : List Text :=
  let exempt := chain.flatMap (forDomain h.exempt)
  (chain.flatMap (forDomain h.perDomain)).filter (!exempt.contains ·)

/-- What to hide on the pages of a host, each selector once: the generic selectors, which nothing
is exempt from, and then those of the domains it lies under, the most general domain first. -/
def selectorsFor (h : HidingStore) (host : Text) : List Text :=
  (h.generic.toList ++ h.domainSelectors (Host.chain (Host.lookupForm host))).eraseDups

end HidingStore

/-- A document, as far as selectors see it: an entry for each selector that selects an element. -/
structure Document (Element : Type) where
  entries : List (Text × Element)
  deriving DecidableEq, Repr

namespace Document

variable {Element : Type} [DecidableEq Element]

def findAll (d : Document Element) (selector : Text) : List Element :=
  (d.entries.filter (·.1 == selector)).map (·.2)

def remove (d : Document Element) (e : Element) : Document Element :=
  { d with entries := d.entries.filter (·.2 ≠ e) }

def removeSelected (d : Document Element) (selector : Text) : Document Element × List Element :=
  let found := d.findAll selector
  (found.foldl remove d, found)

/-- Removes what each of some selectors still finds when its turn comes, and tells in which order.
An element that a selector finds twice is removed twice. -/
def removeAll (d : Document Element) : List Text → Document Element × List Element
  | [] => (d, [])
  | selector :: rest =>
    let (d, removed) := d.removeSelected selector
    let (d, later) := d.removeAll rest
    (d, removed ++ later)

def hide (d : Document Element) (h : HidingStore) (host : Text) : Document Element × List Element :=
  d.removeAll (h.selectorsFor host)

end Document

end ContentFilter
