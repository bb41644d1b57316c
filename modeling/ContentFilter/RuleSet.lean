import ContentFilter.Hiding
import ContentFilter.Host

namespace ContentFilter

structure RuleSet where
  allowedHosts : Host.Registry := .exact
  allowRules : Array PatternRule := #[]
  blockedHosts : Host.Registry := .withSubdomains
  blockRules : Array PatternRule := #[]
  hidden : HidingStore := {}
  deriving DecidableEq, Repr

namespace RuleSet

structure Counts where
  allowedHosts : Nat
  allowRules : Nat
  blockedHosts : Nat
  blockRules : Nat
  generic : Nat
  perDomain : Nat
  exempt : Nat
  deriving DecidableEq, Repr

def addHost (s : RuleSet) (action : Action) (host : Text) : RuleSet :=
  match action with
  | .allow => { s with allowedHosts := s.allowedHosts.insert host }
  | .block => { s with blockedHosts := s.blockedHosts.insert host }

def addPattern (s : RuleSet) (action : Action) (rule : PatternRule) : RuleSet :=
  match action with
  | .allow => { s with allowRules := s.allowRules.push rule }
  | .block => { s with blockRules := s.blockRules.push rule }

def insert (s : RuleSet) : Rule → RuleSet
  | .host action host => s.addHost action host
  | .pattern action rule => s.addPattern action rule
  | .hide rule => { s with hidden := s.hidden.insert rule }

def counts (s : RuleSet) : Counts where
  allowedHosts := s.allowedHosts.size
  allowRules := s.allowRules.size
  blockedHosts := s.blockedHosts.size
  blockRules := s.blockRules.size
  generic := s.hidden.generic.size
  perDomain := s.hidden.perDomain.size
  exempt := s.hidden.exempt.size

def isEmpty (s : RuleSet) : Bool :=
  s.allowedHosts.isEmpty && s.allowRules.isEmpty && s.blockedHosts.isEmpty &&
    s.blockRules.isEmpty && s.hidden.isEmpty

def selectorsFor (s : RuleSet) (host : Text) : List Text := s.hidden.selectorsFor host

end RuleSet

end ContentFilter
