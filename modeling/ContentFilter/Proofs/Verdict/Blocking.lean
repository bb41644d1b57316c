import ContentFilter.Verdict
import ContentFilter.Proofs.RuleSet.Contents
import Mathlib.Data.List.Find

namespace ContentFilter

theorem Host.Registry.covers_insert (registry : Registry) (host asked : Text)
    (covers : registry.covers asked = true) : (registry.insert host).covers asked = true := by
  rw [covers_iff] at covers ⊢
  obtain ⟨nonempty, name, member, found⟩ := covers
  exact ⟨nonempty, name, List.mem_append_right _ member, found⟩

namespace RuleSet

def hostsOf (s : RuleSet) : Action → Host.Registry
  | .allow => s.allowedHosts
  | .block => s.blockedHosts

def rulesOf (s : RuleSet) : Action → Array PatternRule
  | .allow => s.allowRules
  | .block => s.blockRules

def hits (s : RuleSet) (action : Action) (r : Request) : Bool :=
  (s.hostsOf action).covers r.host || (firstMatch (s.rulesOf action) r).isSome

theorem judge_by_rules_is_blocked (s : RuleSet) (r : Request) :
    (s.judgeByRules r).isBlocked = (!s.hits .allow r && s.hits .block r) := by
  rw [judgeByRules, hits, hits, hostsOf, hostsOf, rulesOf, rulesOf]
  cases s.allowedHosts.covers r.host with
  | true => rfl
  | false =>
      cases firstMatch s.allowRules r with
      | some rule => rfl
      | none =>
          cases s.blockedHosts.covers r.host with
          | true => rfl
          | false => cases firstMatch s.blockRules r <;> rfl

theorem judge_is_blocked (s : RuleSet) (enabled : Bool) (r : Request) :
    (s.judge enabled r).isBlocked =
      (enabled && r.isFiltered && !r.isExempt && (!s.hits .allow r && s.hits .block r)) := by
  rw [← judge_by_rules_is_blocked, judge]
  cases enabled with
  | false => rfl
  | true =>
      cases r.isFiltered with
      | false => rfl
      | true => cases r.isExempt <;> rfl

theorem blocked_mono (s t : RuleSet) (enabled : Bool) (r : Request)
    (allowed : t.hits .allow r = true → s.hits .allow r = true)
    (blocked : s.hits .block r = true → t.hits .block r = true)
    (isBlocked : (s.judge enabled r).isBlocked = true) :
    (t.judge enabled r).isBlocked = true := by
  simp only [judge_is_blocked, Bool.and_eq_true, Bool.not_eq_true', ← Bool.not_eq_true]
    at isBlocked ⊢
  obtain ⟨upForFiltering, none_allows, some_blocks⟩ := isBlocked
  exact ⟨upForFiltering, mt allowed none_allows, blocked some_blocks⟩

/-- Two requests that the rules cannot tell apart get the same verdict, by the same rule. -/
theorem judge_congr (s : RuleSet) (enabled : Bool) (r other : Request)
    (filtered : r.isFiltered = other.isFiltered) (exempt : r.isExempt = other.isExempt)
    (covers : ∀ action, (s.hostsOf action).covers r.host = (s.hostsOf action).covers other.host)
    (accepts : ∀ action, ∀ rule ∈ s.rulesOf action, rule.accepts r = rule.accepts other) :
    s.judge enabled r = s.judge enabled other := by
  have found (action : Action) :
      firstMatch (s.rulesOf action) r = firstMatch (s.rulesOf action) other := by
    rw [firstMatch, firstMatch, ← Array.find?_toList, ← Array.find?_toList]
    refine List.find?_congr ?_
    intro rule member
    exact accepts action rule (Array.mem_toList_iff.mp member)
  have allowed : firstMatch s.allowRules r = firstMatch s.allowRules other := found .allow
  have blocked : firstMatch s.blockRules r = firstMatch s.blockRules other := found .block
  have allowedHost : s.allowedHosts.covers r.host = s.allowedHosts.covers other.host :=
    covers .allow
  have blockedHost : s.blockedHosts.covers r.host = s.blockedHosts.covers other.host :=
    covers .block
  rw [judge, judge, judgeByRules, judgeByRules, filtered, exempt, allowedHost, blockedHost, allowed,
    blocked]

section insert

variable (s : RuleSet) (rule : Rule) (action : Action) (r : Request)

theorem insert_hosts_of :
    (s.insert rule).hostsOf action =
      (rule.hostOf? action).elim (s.hostsOf action) (s.hostsOf action).insert := by
  rcases rule with ⟨_ | _, name⟩ | ⟨_ | _, pattern⟩ | hidden <;> cases action <;> rfl

theorem insert_rules_of :
    (s.insert rule).rulesOf action =
      (rule.patternOf? action).elim (s.rulesOf action) (s.rulesOf action).push := by
  rcases rule with ⟨_ | _, name⟩ | ⟨_ | _, pattern⟩ | hidden <;> cases action <;> rfl

theorem hits_insert (hit : s.hits action r = true) : (s.insert rule).hits action r = true := by
  rw [hits, Bool.or_eq_true] at hit ⊢
  rw [insert_hosts_of, insert_rules_of]
  rcases hit with covered | found
  · refine Or.inl ?_
    cases rule.hostOf? action with
    | none => exact covered
    | some name => exact Host.Registry.covers_insert _ name r.host covered
  · refine Or.inr ?_
    cases rule.patternOf? action with
    | none => exact found
    | some pattern =>
        rw [Option.elim_some, firstMatch, Array.find?_push, Option.isSome_or, Bool.or_eq_true]
        exact Or.inl found

theorem hits_insert_other (other : rule.action? ≠ some action) :
    (s.insert rule).hits action r = s.hits action r := by
  have no_host : rule.hostOf? action = none := by
    rw [Option.eq_none_iff_forall_ne_some]
    intro name found
    rw [(Rule.host_eq_some action rule name).mp found] at other
    exact other rfl
  have no_pattern : rule.patternOf? action = none := by
    rw [Option.eq_none_iff_forall_ne_some]
    intro pattern found
    rw [(Rule.pattern_eq_some action rule pattern).mp found] at other
    exact other rfl
  rw [hits, hits, insert_hosts_of, insert_rules_of, no_host, no_pattern]
  rfl

end insert

end RuleSet

end ContentFilter
