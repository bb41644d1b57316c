import ContentFilter.Proofs.Verdict.Blocking
import ContentFilter.Proofs.Wildcard.HostFilters
/-!
Hosts that are looked up and hosts that are searched for as patterns. What a set of rules blocks is
up to which requests each of its rules applies to alone, in any order; and on web addresses a
registered host and the filter `||host^` apply to the same requests, as long as the filter is not
too long to be compiled.
-/
namespace ContentFilter

def Action.noHosts : Action → Host.Registry
  | .allow => .exact
  | .block => .withSubdomains

def Rule.applies (action : Action) (r : Request) : Rule → Bool
  | host a name => a = action && (action.noHosts.insert name).covers r.host
  | pattern a rule => a = action && rule.accepts r
  | hide _ => false

namespace RuleSet

theorem any_applies (action : Action) (r : Request) (rules : List Rule) :
    rules.any (Rule.applies action r) =
      ((rules.filterMap (Rule.hostOf? action)).any
          (fun name => (action.noHosts.insert name).covers r.host) ||
        (rules.filterMap (Rule.patternOf? action)).any (·.accepts r)) := by
  induction rules with
  | nil => rfl
  | cons rule rules ih =>
      rw [List.any_cons, ih, List.filterMap_cons, List.filterMap_cons]
      rcases rule with ⟨a, name⟩ | ⟨a, filter⟩ | hidden
      · by_cases same : a = action
        · simp [Rule.applies, Rule.hostOf?, Rule.patternOf?, same, Bool.or_assoc]
        · simp [Rule.applies, Rule.hostOf?, Rule.patternOf?, same]
      · by_cases same : a = action
        · simp [Rule.applies, Rule.hostOf?, Rule.patternOf?, same, Bool.or_left_comm]
        · simp [Rule.applies, Rule.hostOf?, Rule.patternOf?, same]
      · rfl

theorem first_match_some (filters : Array PatternRule) (rules : List PatternRule)
    (same : filters.toList = rules) (r : Request) :
    (firstMatch filters r).isSome = rules.any (·.accepts r) := by
  rw [Bool.eq_iff_iff, firstMatch, ← Array.find?_toList, same, List.find?_isSome, List.any_eq_true]

theorem hits_eq_any (s : RuleSet) (rules : List Rule) (holds : s.Holds rules) (action : Action)
    (r : Request) : s.hits action r = rules.any (Rule.applies action r) := by
  rw [hits, any_applies]
  cases action with
  | allow =>
      have hosts := s.allowedHosts.covers_any _ holds.allowedHosts r.host
      have patterns := first_match_some s.allowRules _ holds.allowRules r
      rw [holds.allowedExact] at hosts
      rw [hostsOf, rulesOf, hosts, patterns]
      rfl
  | block =>
      have hosts := s.blockedHosts.covers_any _ holds.blockedHosts r.host
      have patterns := first_match_some s.blockRules _ holds.blockRules r
      rw [holds.blockedWide] at hosts
      rw [hostsOf, rulesOf, hosts, patterns]
      rfl

theorem is_blocked_eq (s : RuleSet) (rules : List Rule) (holds : s.Holds rules) (enabled : Bool)
    (r : Request) :
    (s.judge enabled r).isBlocked =
      (enabled && r.isFiltered && !r.isExempt && (!rules.any (Rule.applies .allow r) &&
        rules.any (Rule.applies .block r))) := by
  rw [judge_is_blocked, hits_eq_any s rules holds, hits_eq_any s rules holds]

/-- Two rules that apply to the same requests can take each other's place, in whichever order the
rules are put in. -/
theorem blocked_congr (first second others : List Rule) (one other : Rule)
    (ordered : first.Perm (one :: others)) (ordered' : second.Perm (other :: others)) (r : Request)
    (same : ∀ action, one.applies action r = other.applies action r) (enabled : Bool) :
    ((first.foldl insert {}).judge enabled r).isBlocked =
      ((second.foldl insert {}).judge enabled r).isBlocked := by
  have holds := holds_fold first {} [] holds_empty
  have holds' := holds_fold second {} [] holds_empty
  have any_same (action : Action) :
      first.any (Rule.applies action r) = second.any (Rule.applies action r) := by
    rw [ordered.any_eq, ordered'.any_eq, List.any_cons, List.any_cons, same action]
  rw [List.nil_append] at holds holds'
  rw [is_blocked_eq _ first holds, is_blocked_eq _ second holds', any_same, any_same]

open Pattern Wildcard

/-- A host that is registered covers its web addresses just as its filter is found in them. -/
theorem covers_eq_occurs (a : WebAddress) (name : Text) (small : Host.IsSmallName name)
    (dotted : '.' ∈ name) (p : Pattern) (compiled : compile (hostFilter name) = .ok p) :
    (Host.Registry.withSubdomains.insert name).covers a.host = p.occursIn a.text.lower := by
  rw [Bool.eq_iff_iff, Host.Registry.covers_alone name dotted, a.lookup_host,
    occurs_in_address a name small p compiled]

/-- For a host of two labels or more the filter `||host^` compiles unless it is too large, which no
filter on a host of up to 16384 characters is. Where it compiles, the host and the filter agree on
every web address, and of two sets of rules that are alike but for them, in whichever order, both
block it or none does. -/
theorem host_and_filter_agree (h : Text) (canonical : Host.normalize? h = some h)
    (dotted : '.' ∈ h) :
    (h.length ≤ 16384 → ∃ p, compile (hostFilter h) = .ok p) ∧
    ((∃ p, compile (hostFilter h) = .ok p) ∨ compile (hostFilter h) = .error .tooLarge) ∧
    ∀ p, compile (hostFilter h) = .ok p →
      ∀ (a : WebAddress) (site referer : Text) (exemptReferers : List Text),
        let r := Request.of a.text site referer exemptReferers
        (Host.Registry.withSubdomains.insert h).covers r.host = p.occursIn r.lowerUrl ∧
        ∀ (first second others : List Rule) (source : Text) (enabled : Bool),
          first.Perm (.host .block h :: others) →
          second.Perm (.pattern .block (.standard { source, pattern := p }) :: others) →
            ((first.foldl insert {}).judge enabled r).isBlocked =
              ((second.foldl insert {}).judge enabled r).isBlocked := by
  have small := Host.small_name_of_normalize h h canonical
  have built := compile_host_filter h
  refine ⟨?_, ?_, ?_⟩
  · intro short
    have fits := host_filter_fits h (fun c member => (small c member).1) short
    exact ⟨_, built.trans (if_pos fits)⟩
  · rw [built]
    split
    · exact Or.inl ⟨_, rfl⟩
    · exact Or.inr rfl
  · intro p compiled a site referer exemptReferers r
    have host : r.host = a.host := by
      change (Url.host? a.text).getD [] = a.host
      rw [a.host_text, Option.getD_some]
    have agree : (Host.Registry.withSubdomains.insert h).covers r.host = p.occursIn r.lowerUrl := by
      rw [host]
      exact covers_eq_occurs a h small dotted p compiled
    refine ⟨agree, ?_⟩
    intro first second others source enabled ordered ordered'
    apply blocked_congr first second others _ _ ordered ordered' r
    intro action
    rw [Rule.applies, Rule.applies, PatternRule.accepts, PatternFilter.accepts, ← agree]
    cases action <;> rfl

def subdomainAddress : WebAddress where
  scheme := "HTTPS".toList
  host := "img.ADS.example".toList
  port := some "8080".toList
  tail := "?id=1".toList
  isWeb := Or.inr rfl
  named := by decide
  nameChars := List.all_eq_true.mp rfl
  rootless := by decide
  digits digits given := by
    obtain rfl := Option.some.inj given
    exact List.all_eq_true.mp rfl
  cut c head := by
    obtain rfl := Option.some.inj head
    rfl

/-- The filter on a domain is found in the address, and blocks it as the host does that it takes the
place of. -/
theorem subdomain_is_blocked :
    ∃ p, compile (hostFilter "ads.example".toList) = .ok p ∧
      p.occursIn (Request.of subdomainAddress.text [] [] []).lowerUrl = true ∧
      (([.host .allow "cdn.example".toList, .pattern .block
          (.standard { source := "||ads.example^".toList, pattern := p })].foldl insert {}).judge
        true (Request.of subdomainAddress.text [] [] [])).isBlocked = true := by
  obtain ⟨compiles, -, agree⟩ := host_and_filter_agree "ads.example".toList (by decide) (by decide)
  obtain ⟨p, compiled⟩ := compiles (by decide)
  obtain ⟨covers, blocked⟩ := agree p compiled subdomainAddress [] [] []
  refine ⟨p, compiled, ?_, ?_⟩
  · rw [← covers]
    decide
  · rw [← blocked [.host .block "ads.example".toList, .host .allow "cdn.example".toList] _
      [.host .allow "cdn.example".toList] _ _ (List.Perm.refl _) (List.Perm.swap _ _ _)]
    decide

def zeros (n : Nat) : Text := List.replicate n '0' ++ ".a".toList

theorem zeros_small (n : Nat) : Host.IsSmallName (zeros n) := by
  intro c member
  rcases List.mem_append.mp member with zero | other
  · rw [(List.mem_replicate.mp zero).2]
    decide
  · have small : ".a".toList.all (fun d => Host.isNameChar d && d.toLower == d) = true := by decide
    simpa using List.all_eq_true.mp small c other

theorem zeros_last (n : Nat) : (zeros n).getLast? = some 'a' := by
  rw [zeros, List.getLast?_append]
  rfl

theorem normalize_zeros (n : Nat) (some_zero : 0 < n) :
    Host.normalize? (zeros n) = some (zeros n) := by
  have one : (zeros n).count '.' = 1 := by
    rw [zeros, List.count_append, List.count_replicate, if_neg (by decide)]
    rfl
  apply Host.normalize_small_name (zeros n) (zeros_small n)
  · simp [zeros]
  · obtain ⟨m, rfl⟩ := Nat.exists_eq_succ_of_ne_zero some_zero.ne'
    simp [zeros, List.replicate_succ]
  · simp [zeros_last]
  · intro twice
    have two := twice.sublist.count_le '.'
    rw [one] at two
    exact absurd two (by decide)

def zerosAddress (n : Nat) : WebAddress where
  scheme := "http".toList
  host := zeros n
  port := none
  tail := ['/']
  isWeb := Or.inl rfl
  named := by simp [zeros]
  nameChars c member := (zeros_small n c member).1
  rootless := by simp [zeros_last]
  digits := by simp
  cut c head := by
    obtain rfl := Option.some.inj head
    rfl

/-- The registry covers a host whose filter is too large to be compiled. -/
theorem long_host_has_no_filter :
    ∃ (h : Text) (a : WebAddress), Host.normalize? h = some h ∧ '.' ∈ h ∧
      ¬ ((Host.Registry.withSubdomains.insert h).covers (Request.of a.text [] [] []).host = true ↔
        ∃ p, compile (hostFilter h) = .ok p ∧
          p.occursIn (Request.of a.text [] [] []).lowerUrl = true) := by
  have dotted : '.' ∈ zeros 327690 := List.mem_append_right _ (by decide)
  have host : (Request.of (zerosAddress 327690).text [] [] []).host = zeros 327690 := by
    change (Url.host? (zerosAddress 327690).text).getD [] = _
    rw [(zerosAddress 327690).host_text]
    rfl
  have lookup : Host.lookupForm (zeros 327690) = zeros 327690 := by
    rw [show zeros 327690 = (zerosAddress 327690).host from rfl, (zerosAddress 327690).lookup_host]
    exact Host.lower_small_name _ (zeros_small 327690)
  refine ⟨zeros 327690, zerosAddress 327690, normalize_zeros 327690 (by decide), dotted, ?_⟩
  rw [host, Host.Registry.covers_alone _ dotted, lookup]
  intro agree
  obtain ⟨p, compiled, -⟩ := agree.mp (Or.inl rfl)
  rw [compile_host_filter, zeros, zeros_too_large 327690 (by decide) _
    (List.all_eq_true.mp rfl)] at compiled
  cases compiled

end RuleSet

end ContentFilter
