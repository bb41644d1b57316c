import ContentFilter.Builder
import ContentFilter.Proofs.Host.Registry

namespace ContentFilter

namespace Rule

def inLine? (line : Text) : Option Rule :=
  match ofLine line with
  | .ok rule => rule
  | .error _ => none

theorem in_line_of_read (line : Text) (rule : Rule) (read : ofLine line = .ok (some rule)) :
    inLine? line = some rule := by
  rw [inLine?, read]

def hostOf? (action : Action) : Rule → Option Text
  | host a name => if a = action then some name else none
  | _ => none

def patternOf? (action : Action) : Rule → Option PatternRule
  | pattern a rule => if a = action then some rule else none
  | _ => none

def generic? : Rule → Option Text
  | hide (.generic selector) => some selector
  | _ => none

def included : Rule → List (Text × Text)
  | hide (.perDomain selector domains _) => domains.map (·, selector)
  | _ => []

def excluded : Rule → List (Text × Text)
  | hide (.perDomain selector _ domains) => domains.map (·, selector)
  | _ => []

theorem in_line_eq_some (line : Text) (rule : Rule) :
    inLine? line = some rule ↔ ofLine line = .ok (some rule) := by
  unfold inLine?
  cases ofLine line with
  | error _ => simp
  | ok found => simp

theorem mem_of_list (text : Text) (rule : Rule) :
    rule ∈ ofList text ↔ ∃ line ∈ text.lines, ofLine line = .ok (some rule) := by
  change rule ∈ text.lines.filterMap inLine? ↔ _
  simp only [List.mem_filterMap, in_line_eq_some]

theorem mem_flat_map_of_list {α : Type} (part : Rule → List α) (text : Text) (x : α) :
    x ∈ (ofList text).flatMap part ↔
      ∃ line ∈ text.lines, ∃ rule, ofLine line = .ok (some rule) ∧ x ∈ part rule := by
  rw [List.mem_flatMap]
  simp only [mem_of_list]
  constructor
  · rintro ⟨rule, ⟨line, member, found⟩, among⟩
    exact ⟨line, member, rule, found, among⟩
  · rintro ⟨line, member, rule, found, among⟩
    exact ⟨rule, ⟨line, member, found⟩, among⟩

theorem host_eq_some (action : Action) (rule : Rule) (name : Text) :
    rule.hostOf? action = some name ↔ rule = .host action name := by
  unfold hostOf?
  split <;> simp_all

theorem pattern_eq_some (action : Action) (rule : Rule) (pattern : PatternRule) :
    rule.patternOf? action = some pattern ↔ rule = .pattern action pattern := by
  unfold patternOf?
  split <;> simp_all

theorem generic_eq_some (rule : Rule) (selector : Text) :
    rule.generic? = some selector ↔ rule = .hide (.generic selector) := by
  unfold generic?
  split <;> simp_all

theorem map_eq_ok {ε α β : Type} (f : α → β) (x : Except ε α) (b : β) :
    x.map f = .ok b ↔ ∃ a, x = .ok a ∧ f a = b := by
  cases x <;> simp [Except.map]

theorem of_filter_cases (action : Action) (filter line : Text) (rule : Rule)
    (found : ofFilter action filter line = .ok rule) :
    (∃ name, Host.ofFilter? filter = some name ∧ rule = .host action name) ∨
      ∃ pattern, PatternRule.ofFilter filter line = .ok pattern ∧ rule = .pattern action pattern := by
  unfold ofFilter at found
  split at found
  · rename_i name reduced
    exact Or.inl ⟨name, reduced, (Except.ok.inj found).symm⟩
  · obtain ⟨pattern, made, same⟩ := (map_eq_ok _ _ rule).mp found
    exact Or.inr ⟨pattern, made, same.symm⟩

theorem of_filter_ne_hide (action : Action) (filter line : Text) (hidden : HidingRule) :
    ofFilter action filter line ≠ .ok (.hide hidden) := by
  intro found
  rcases of_filter_cases action filter line _ found with ⟨_, _, same⟩ | ⟨_, _, same⟩ <;> cases same

theorem of_line_trim (line : Text) : ofLine line.trim = ofLine line := by
  rw [ofLine, ofLine, Text.trim_trim]

def filterIn (line : Text) : Text :=
  match line.trim with
  | '@' :: '@' :: rest => Text.trimStart rest
  | filter => filter

theorem of_line_cases (line : Text) (rule : Rule) (found : ofLine line = .ok (some rule)) :
    (∃ domains selector isException hidden,
      HidingRule.ofParts? domains selector isException = some hidden ∧ rule = .hide hidden) ∨
    ofFilter (.ofFilter line.trim) (filterIn line) line.trim = .ok rule := by
  have network {action : Action} {filter whole : Text}
      (made : (ofFilter action filter whole).map some = .ok (some rule)) :
      ofFilter action filter whole = .ok rule := by
    obtain ⟨other, built, same⟩ := (map_eq_ok _ _ _).mp made
    rw [built, Option.some.inj same]
  have hidingRule {domains selector : Text} {isException : Bool}
      (made : (.ok ((HidingRule.ofParts? domains selector isException).map .hide) :
        Except RejectedLine (Option Rule)) = .ok (some rule)) :
      ∃ domains selector isException hidden,
        HidingRule.ofParts? domains selector isException = some hidden ∧ rule = .hide hidden := by
    obtain ⟨hidden, parts, same⟩ := Option.map_eq_some_iff.mp (Except.ok.inj made)
    exact ⟨domains, selector, isException, hidden, parts, same.symm⟩
  unfold ofLine at found
  dsimp only at found
  split at found
  · simp at found
  · split at found
    · rename_i rest exempt
      split at found
      · simp at found
      · rw [filterIn, exempt]
        rw [exempt] at found
        exact Or.inr (network found)
    · rename_i unmarked
      have blocks : Action.ofFilter line.trim = .block := by
        rw [Action.ofFilter]
        exact unmarked
      have whole : filterIn line = line.trim := by
        rw [filterIn]
        split
        · rename_i rest exempt
          exact absurd exempt (unmarked rest)
        · rfl
      split at found
      · exact Or.inl (hidingRule found)
      · split at found
        · exact Or.inl (hidingRule found)
        · rw [blocks, whole]
          exact Or.inr (network found)

theorem of_line_host_has_dot (line name : Text) (action : Action)
    (found : ofLine line = .ok (some (.host action name))) : '.' ∈ name := by
  rcases of_line_cases line _ found with ⟨_, _, _, _, -, same⟩ | made
  · cases same
  · rcases of_filter_cases _ _ _ _ made with ⟨other, reduced, same⟩ | ⟨_, _, same⟩
    · rw [(Rule.host.inj same).2]
      exact Host.of_filter_has_dot _ other reduced
    · cases same

end Rule

namespace HidingRule

theorem of_parts_cases (domains written : Text) (isException : Bool) (rule : HidingRule)
    (made : ofParts? domains written isException = some rule) :
    rule = .generic written.trim ∨
      ∃ included excluded, ¬ (included = [] ∧ excluded = []) ∧
        rule = .perDomain written.trim included excluded := by
  unfold ofParts? at made
  dsimp only at made
  split at made
  · cases made
  · split at made
    · split at made
      · cases made
      · exact Or.inl (Option.some.inj made).symm
    · split at made
      · cases made
      · rename_i included excluded some_domain _
        refine Or.inr ⟨included, excluded, ?_, (Option.some.inj made).symm⟩
        rintro ⟨rfl, rfl⟩
        exact some_domain rfl rfl

end HidingRule

namespace HidingStore

theorem fold_per_domain (h : HidingStore) (selector : Text) (domains : List Text) :
    domains.foldl (fun h domain => h.addPerDomain domain selector) h =
      { h with perDomain := h.perDomain ++ (domains.map (·, selector)).toArray } := by
  induction domains generalizing h with
  | nil => simp
  | cons domain domains ih =>
      rw [List.foldl_cons, ih]
      simp [addPerDomain]

theorem fold_exempt (h : HidingStore) (selector : Text) (domains : List Text) :
    domains.foldl (fun h domain => h.addExempt domain selector) h =
      { h with exempt := h.exempt ++ (domains.map (·, selector)).toArray } := by
  induction domains generalizing h with
  | nil => simp
  | cons domain domains ih =>
      rw [List.foldl_cons, ih]
      simp [addExempt]

theorem insert_generic (h : HidingStore) (selector : Text) :
    h.insert (.generic selector) = { h with generic := h.generic.push selector } := rfl

theorem insert_per_domain (h : HidingStore) (selector : Text) (included excluded : List Text) :
    h.insert (.perDomain selector included excluded) =
      { h with
        perDomain := h.perDomain ++ (included.map (·, selector)).toArray
        exempt := h.exempt ++ (excluded.map (·, selector)).toArray } := by
  simp only [insert, fold_per_domain, fold_exempt]

end HidingStore

namespace RuleSet

/-- The set came about by putting these rules into an empty one, the first rule first. -/
structure Holds (s : RuleSet) (rules : List Rule) : Prop where
  allowedHosts : s.allowedHosts.Holds (rules.filterMap (Rule.hostOf? .allow))
  allowedExact : s.allowedHosts.coversSubdomains = false
  allowRules : s.allowRules.toList = rules.filterMap (Rule.patternOf? .allow)
  blockedHosts : s.blockedHosts.Holds (rules.filterMap (Rule.hostOf? .block))
  blockedWide : s.blockedHosts.coversSubdomains = true
  blockRules : s.blockRules.toList = rules.filterMap (Rule.patternOf? .block)
  generic : s.hidden.generic.toList = rules.filterMap Rule.generic?
  perDomain : s.hidden.perDomain.toList = rules.flatMap Rule.included
  exempt : s.hidden.exempt.toList = rules.flatMap Rule.excluded

theorem holds_empty : RuleSet.Holds {} [] where
  allowedHosts := Host.Registry.holds_none _ rfl rfl
  allowedExact := rfl
  allowRules := rfl
  blockedHosts := Host.Registry.holds_none _ rfl rfl
  blockedWide := rfl
  blockRules := rfl
  generic := rfl
  perDomain := rfl
  exempt := rfl

theorem holds_insert (s : RuleSet) (rules : List Rule) (rule : Rule) (holds : s.Holds rules) :
    (s.insert rule).Holds (rules ++ [rule]) := by
  rcases rule with ⟨_ | _, host⟩ | ⟨_ | _, pattern⟩ | ⟨selector | ⟨selector, included, excluded⟩⟩
  all_goals constructor
  all_goals
    simp [insert, addHost, addPattern, List.filterMap_cons, Rule.hostOf?, Rule.patternOf?,
      Rule.generic?, Rule.included, Rule.excluded, HidingStore.insert_per_domain,
      HidingStore.insert_generic, holds.allowedExact, holds.allowRules,
      holds.blockedWide, holds.blockRules, holds.generic, holds.perDomain, holds.exempt,
      holds.allowedHosts, holds.blockedHosts, Host.Registry.holds_insert]

theorem holds_fold (rules : List Rule) (s : RuleSet) (before : List Rule) (holds : s.Holds before) :
    (rules.foldl insert s).Holds (before ++ rules) := by
  induction rules generalizing s before with
  | nil => simpa using holds
  | cons rule rules ih =>
      have next := ih (s.insert rule) (before ++ [rule]) (holds_insert s before rule holds)
      simpa using next

end RuleSet

namespace Builder

theorem add_line_set (b : Builder) (line : Text) :
    (b.addLine line).set = (Rule.inLine? line).elim b.set b.set.insert := by
  unfold addLine Rule.inLine?
  split <;> simp_all

theorem add_lines_set (b : Builder) (lines : List Text) :
    (b.addLines lines).set = (lines.filterMap Rule.inLine?).foldl RuleSet.insert b.set := by
  induction lines generalizing b with
  | nil => rfl
  | cons line lines ih =>
      change ((b.addLine line).addLines lines).set = _
      rw [ih, add_line_set, List.filterMap_cons]
      cases Rule.inLine? line <;> rfl

theorem holds_add_lines (lines : List Text) :
    (addLines {} lines).set.Holds (lines.filterMap Rule.inLine?) := by
  have built := RuleSet.holds_fold (lines.filterMap Rule.inLine?) {} [] RuleSet.holds_empty
  rw [List.nil_append] at built
  rw [add_lines_set]
  exact built

end Builder

theorem RuleSet.holds_of_list (text : Text) :
    (RuleSet.ofList text).set.Holds (Rule.ofList text) :=
  Builder.holds_add_lines text.lines

end ContentFilter
