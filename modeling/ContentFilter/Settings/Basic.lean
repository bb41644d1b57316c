import ContentFilter.Files
import ContentFilter.Host

namespace ContentFilter

structure Subscription where
  name : Text
  /-- Where the list is fetched from. -/
  url : Option Text := none
  path : Text
  enabled : Bool := true
  deriving DecidableEq, Repr

structure Settings where
  enabled : Bool := true
  /-- Whether elements are hidden, as far as filtering is enabled at all. -/
  hidesElements : Bool := true
  updateIntervalDays : Nat := 7
  /-- Hosts whose mention in the referer exempts a request from filtering. -/
  exemptReferers : List Text := []
  /-- Hosts on whose pages nothing is filtered, with their subdomains. -/
  trustedHosts : List Text := []
  /-- The file of the rules that the user adds. -/
  localRules : Text := "adblockrules_local".toList
  subscriptions : List Subscription := []
  deriving DecidableEq, Repr

namespace Settings

def enabledSubscriptions (s : Settings) : List Subscription := s.subscriptions.filter (·.enabled)

def resolvePaths (s : Settings) (base : Text) : Settings :=
  { s with
    localRules := Path.join base s.localRules
    subscriptions := s.subscriptions.map fun list =>
      { list with path := Path.join base list.path } }

/-- A host is trusted if a domain that it lies under is. -/
def isTrusted (s : Settings) (host : Text) : Bool :=
  (Host.suffixes host.asciiLower).any fun domain =>
    s.trustedHosts.any fun trusted => trusted.equalIgnoringCase domain

def secondsPerDay : Nat := 24 * 60 * 60

def updateIntervalSeconds (s : Settings) : Nat := s.updateIntervalDays * secondsPerDay

/-- Whether lists that were fetched at one time are to be fetched anew at another. The times are in
milliseconds; a clock that went backwards asks for nothing. -/
def isUpdateDue (s : Settings) (last now : Int) : Bool :=
  last ≤ now && s.updateIntervalSeconds * 1000 ≤ now - last

end Settings

end ContentFilter
