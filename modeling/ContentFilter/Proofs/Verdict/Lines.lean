import ContentFilter.Verdict
import ContentFilter.Proofs.RuleSet.Contents

namespace ContentFilter

/-- What a rule says of a request when it is taken alone. -/
def Rule.hits (r : Request) : Rule → Bool
  | host .allow name => decide (Host.IsNamed (Host.lookupForm r.host) name)
  | host .block name => decide (Host.IsUnder (Host.lookupForm r.host) name)
  | pattern _ rule => rule.accepts r
  | hide _ => false

namespace Verdict

/-- The line has a rule with this action, and the rule hits the request. -/
def lineHits (action : Action) (r : Request) (line : Text) : Bool :=
  match Rule.ofLine line with
  | .ok (some rule) => rule.action? = some action && rule.hits r
  | _ => false

def hostLineHits (action : Action) (r : Request) (line : Text) : Bool :=
  match Rule.ofLine line with
  | .ok (some (.host a name)) => a = action && (Rule.host a name).hits r
  | _ => false

def patternOfLine? (action : Action) (r : Request) (line : Text) : Option PatternRule :=
  match Rule.ofLine line with
  | .ok (some (.pattern a rule)) => if a = action ∧ rule.accepts r then some rule else none
  | _ => none

def firstPattern? (action : Action) (r : Request) (lines : List Text) : Option PatternRule :=
  lines.findSome? (patternOfLine? action r)

/-- What the lines say of a request that is up for filtering. -/
def ofLines (lines : List Text) (r : Request) : Verdict :=
  if lines.any (hostLineHits .allow r) then allowedHost
  else match firstPattern? .allow r lines with
    | some rule => allowedBy rule.source
    | none =>
      if lines.any (hostLineHits .block r) then blockedHost
      else match firstPattern? .block r lines with
        | some rule => blockedBy rule.source
        | none => noMatch

def ofList (lines : List Text) (r : Request) : Verdict :=
  if r.scheme? ≠ some .http ∧ r.scheme? ≠ some .https then unsupportedScheme
  else if r.isExempt then exemptReferer
  else ofLines lines r

theorem line_hits_iff (action : Action) (r : Request) (line : Text) :
    lineHits action r line = true ↔
      hostLineHits action r line = true ∨ (patternOfLine? action r line).isSome := by
  unfold lineHits hostLineHits patternOfLine?
  rcases Rule.ofLine line with _ | _ | ⟨a, name⟩ | ⟨a, rule⟩ | rule
  · simp
  · simp
  · simp [Rule.action?]
  · by_cases same : a = action <;> simp [Rule.action?, Rule.hits, same]
  · simp [Rule.action?]

theorem any_line_hits (action : Action) (r : Request) (lines : List Text) :
    (∃ line ∈ lines, lineHits action r line = true) ↔
      lines.any (hostLineHits action r) = true ∨ (firstPattern? action r lines).isSome := by
  rw [firstPattern?, List.findSome?_isSome_iff, List.any_eq_true]
  simp only [line_hits_iff]
  constructor
  · rintro ⟨line, member, found | found⟩
    · exact Or.inl ⟨line, member, found⟩
    · exact Or.inr ⟨line, member, found⟩
  · rintro (⟨line, member, found⟩ | ⟨line, member, found⟩)
    · exact ⟨line, member, Or.inl found⟩
    · exact ⟨line, member, Or.inr found⟩

theorem of_lines_blocked (lines : List Text) (r : Request) :
    (ofLines lines r).isBlocked = true ↔
      (∀ line ∈ lines, lineHits .allow r line = false) ∧
        ∃ line ∈ lines, lineHits .block r line = true := by
  have exceptions : (∀ line ∈ lines, lineHits .allow r line = false) ↔
      ¬ (lines.any (hostLineHits .allow r) = true ∨ (firstPattern? .allow r lines).isSome) := by
    rw [← any_line_hits]
    push Not
    simp only [ne_eq, Bool.not_eq_true]
  rw [exceptions, any_line_hits, ofLines]
  split
  · rename_i allowed
    simp [allowed, isBlocked]
  · rename_i unnamed
    cases firstPattern? .allow r lines with
    | some rule => simp [isBlocked]
    | none =>
        by_cases blocked : lines.any (hostLineHits .block r) = true
        · simp only [if_pos blocked]
          simp [unnamed, blocked, isBlocked]
        · simp only [if_neg blocked]
          cases firstPattern? .block r lines <;> simp [unnamed, blocked, isBlocked]

theorem of_list_blocked (lines : List Text) (r : Request) :
    (ofList lines r).isBlocked = true ↔
      (r.scheme? = some .http ∨ r.scheme? = some .https) ∧ r.isExempt = false ∧
        (∀ line ∈ lines, lineHits .allow r line = false) ∧
          ∃ line ∈ lines, lineHits .block r line = true := by
  rw [← of_lines_blocked, ofList]
  split
  · rename_i unsupported
    simp [unsupported.1, unsupported.2, isBlocked]
  · rename_i supported
    have scheme : r.scheme? = some .http ∨ r.scheme? = some .https := by tauto
    split
    · rename_i exempt
      simp [exempt, isBlocked]
    · rename_i plain
      simp [scheme, plain]

end Verdict

namespace RuleSet

open Verdict

theorem host_rules_hit (action : Action) (r : Request) (lines : List Text) :
    (∃ name ∈ (lines.filterMap Rule.inLine?).filterMap (Rule.hostOf? action),
      (Rule.host action name).hits r = true) ↔ lines.any (hostLineHits action r) = true := by
  simp only [List.mem_filterMap, List.any_eq_true, Rule.in_line_eq_some]
  constructor
  · rintro ⟨name, ⟨rule, ⟨line, member, found⟩, isHost⟩, hit⟩
    refine ⟨line, member, ?_⟩
    obtain rfl := (Rule.host_eq_some action rule name).mp isHost
    simp [hostLineHits, found, hit]
  · rintro ⟨line, member, hit⟩
    unfold hostLineHits at hit
    split at hit
    · rename_i a name found
      obtain ⟨same, alone⟩ := Bool.and_eq_true_iff.mp hit
      obtain rfl := of_decide_eq_true same
      exact ⟨name, ⟨_, ⟨line, member, found⟩, (Rule.host_eq_some _ _ name).mpr rfl⟩, alone⟩
    · cases hit

theorem pattern_rules_hit (action : Action) (r : Request) (lines : List Text) :
    ((lines.filterMap Rule.inLine?).filterMap (Rule.patternOf? action)).find? (·.accepts r) =
      firstPattern? action r lines := by
  rw [firstPattern?]
  induction lines with
  | nil => rfl
  | cons line lines ih =>
      rw [List.findSome?_cons, List.filterMap_cons, patternOfLine?, Rule.inLine?]
      rcases Rule.ofLine line with _ | _ | ⟨a, name⟩ | ⟨a, rule⟩ | rule
      · exact ih
      · exact ih
      · exact ih
      · by_cases same : a = action
        · by_cases hit : rule.accepts r = true
          · simp [Rule.patternOf?, same, hit]
          · simpa [List.filterMap_cons, Rule.patternOf?, same, hit] using ih
        · simpa [List.filterMap_cons, Rule.patternOf?, same] using ih
      · exact ih

theorem hosts_have_dots (action : Action) (text : Text) :
    ∀ name ∈ (Rule.ofList text).filterMap (Rule.hostOf? action), '.' ∈ name := by
  intro name member
  obtain ⟨rule, among, isHost⟩ := List.mem_filterMap.mp member
  obtain ⟨line, -, found⟩ := (Rule.mem_of_list text rule).mp among
  obtain rfl := (Rule.host_eq_some action rule name).mp isHost
  exact Rule.of_line_host_has_dot line name action found

theorem allowed_hosts_cover (text : Text) (r : Request) :
    (ofList text).set.allowedHosts.covers r.host = text.lines.any (hostLineHits .allow r) := by
  have holds := holds_of_list text
  rw [Bool.eq_iff_iff, ← host_rules_hit,
    Host.Registry.covers_exact _ _ holds.allowedHosts (hosts_have_dots .allow text)
      holds.allowedExact]
  simp only [Rule.hits, decide_eq_true_eq]
  rfl

theorem blocked_hosts_cover (text : Text) (r : Request) :
    (ofList text).set.blockedHosts.covers r.host = text.lines.any (hostLineHits .block r) := by
  have holds := holds_of_list text
  rw [Bool.eq_iff_iff, ← host_rules_hit,
    Host.Registry.covers_under _ _ holds.blockedHosts (hosts_have_dots .block text)
      holds.blockedWide]
  simp only [Rule.hits, decide_eq_true_eq]
  rfl

theorem first_match_allow (text : Text) (r : Request) :
    firstMatch (ofList text).set.allowRules r = firstPattern? .allow r text.lines := by
  rw [firstMatch, ← Array.find?_toList, (holds_of_list text).allowRules]
  exact pattern_rules_hit .allow r text.lines

theorem first_match_block (text : Text) (r : Request) :
    firstMatch (ofList text).set.blockRules r = firstPattern? .block r text.lines := by
  rw [firstMatch, ← Array.find?_toList, (holds_of_list text).blockRules]
  exact pattern_rules_hit .block r text.lines

theorem is_filtered_iff (r : Request) :
    r.isFiltered = true ↔ r.scheme? = some .http ∨ r.scheme? = some .https := by
  unfold Request.isFiltered
  rcases r.scheme? with _ | scheme
  · simp
  · cases scheme <;> simp [Scheme.isFiltered]

theorem judge_of_list (text : Text) (r : Request) :
    (ofList text).set.judge true r = Verdict.ofList text.lines r := by
  have scheme := is_filtered_iff r
  have rules : (ofList text).set.judgeByRules r = Verdict.ofLines text.lines r := by
    rw [judgeByRules, allowed_hosts_cover, first_match_allow, blocked_hosts_cover,
      first_match_block]
    rfl
  rw [judge, Verdict.ofList, rules]
  by_cases filtered : r.isFiltered = true
  · have supported : ¬ (r.scheme? ≠ some .http ∧ r.scheme? ≠ some .https) := by tauto
    simp [filtered, supported]
  · have unsupported : r.scheme? ≠ some .http ∧ r.scheme? ≠ some .https := by tauto
    simp [filtered, unsupported]

/-- A set judges requests as its list reads, line by line; and it blocks a request that is up for
filtering just when a line that blocks hits it and no exception does. -/
theorem judge_reads_lines (text : Text) (r : Request) :
    (ofList text).set.judge true r = Verdict.ofList text.lines r ∧
      (((ofList text).set.judge true r).isBlocked = true ↔
        (r.scheme? = some .http ∨ r.scheme? = some .https) ∧ r.isExempt = false ∧
          (∀ line ∈ text.lines, lineHits .allow r line = false) ∧
            ∃ line ∈ text.lines, lineHits .block r line = true) := by
  rw [judge_of_list]
  exact ⟨rfl, of_list_blocked text.lines r⟩

end RuleSet

end ContentFilter
