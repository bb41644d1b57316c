import ContentFilter.RuleSet
/-!
Judging requests. The steps have a fixed order, in which every exception comes before every rule
that blocks, and hosts come before patterns; the first step that applies decides.
-/
namespace ContentFilter

/-- The step that decided on a request, with the text of the rule if it was a pattern. -/
inductive Verdict
  | disabled
  | unsupportedScheme
  | exemptReferer
  | allowedHost
  | allowedBy (source : Text)
  | blockedHost
  | blockedBy (source : Text)
  | noMatch
  deriving DecidableEq, Repr

namespace Verdict

def isBlocked : Verdict → Bool
  | blockedHost => true
  | blockedBy _ => true
  | _ => false

end Verdict

namespace RuleSet

def firstMatch (rules : Array PatternRule) (r : Request) : Option PatternRule :=
  rules.find? (·.accepts r)

def judgeByRules (s : RuleSet) (r : Request) : Verdict :=
  if s.allowedHosts.covers r.host then .allowedHost
  else match firstMatch s.allowRules r with
    | some rule => .allowedBy rule.source
    | none =>
      if s.blockedHosts.covers r.host then .blockedHost
      else match firstMatch s.blockRules r with
        | some rule => .blockedBy rule.source
        | none => .noMatch

def judge (s : RuleSet) (enabled : Bool) (r : Request) : Verdict :=
  if !enabled then .disabled
  else if !r.isFiltered then .unsupportedScheme
  else if r.isExempt then .exemptReferer
  else s.judgeByRules r

end RuleSet

end ContentFilter
