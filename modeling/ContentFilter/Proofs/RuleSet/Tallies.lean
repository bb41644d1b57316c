import ContentFilter.Proofs.RuleSet.AddedLine
import ContentFilter.Proofs.RuleSet.SameLines
/-!
Tallies and what they are tallies of. Each line is counted once and each rule goes to one part of
the set, so that the numbers of a tally are the sizes of the parts, whichever builders the lines
were fed to, and in whichever portions.
-/
namespace ContentFilter

open Text

namespace HidingRule

def entryCount : HidingRule → Nat
  | generic _ => 1
  | perDomain _ included excluded => included.length + excluded.length

theorem of_parts_entry (domains written : Text) (isException : Bool) (rule : HidingRule)
    (made : ofParts? domains written isException = some rule) : 0 < rule.entryCount := by
  rcases of_parts_cases domains written isException rule made with
    rfl | ⟨included, excluded, some_domain, rfl⟩
  · exact Nat.one_pos
  · rw [entryCount, Nat.pos_iff_ne_zero]
    intro none_listed
    obtain ⟨first, second⟩ := Nat.add_eq_zero_iff.mp none_listed
    exact some_domain ⟨List.length_eq_zero_iff.mp first, List.length_eq_zero_iff.mp second⟩

theorem of_line_entry (line : Text) (rule : HidingRule)
    (found : Rule.ofLine line = .ok (some (.hide rule))) : 0 < rule.entryCount := by
  rcases Rule.of_line_cases line _ found with ⟨domains, written, isException, _, made, same⟩ | made
  · obtain rfl := Rule.hide.inj same
    exact of_parts_entry domains written isException _ made
  · exact absurd made (Rule.of_filter_ne_hide _ _ _ rule)

end HidingRule

namespace HidingStore

def entryCount (h : HidingStore) : Nat := h.generic.size + h.perDomain.size + h.exempt.size

theorem insert_entries (h : HidingStore) (rule : HidingRule) :
    (h.insert rule).entryCount = h.entryCount + rule.entryCount := by
  cases rule with
  | generic selector =>
      simp only [insert_generic, entryCount, HidingRule.entryCount, Array.size_push]
      omega
  | perDomain selector included excluded =>
      simp only [insert_per_domain, entryCount, HidingRule.entryCount, Array.size_append,
        List.size_toArray, List.length_map]
      omega

theorem is_empty_iff (h : HidingStore) : h.isEmpty = true ↔ h.entryCount = 0 := by
  simp [isEmpty, entryCount, and_assoc]

end HidingStore

namespace RuleSet

/-- The parts of a rule set. -/
inductive Part
  | allowedHosts | allowRules | blockedHosts | blockRules | hidden
  deriving DecidableEq, Repr

def SamePart (s t : RuleSet) : Part → Prop
  | .allowedHosts => s.allowedHosts = t.allowedHosts
  | .allowRules => s.allowRules = t.allowRules
  | .blockedHosts => s.blockedHosts = t.blockedHosts
  | .blockRules => s.blockRules = t.blockRules
  | .hidden => s.hidden = t.hidden

def partOf : Rule → Part
  | .host .allow _ => .allowedHosts
  | .host .block _ => .blockedHosts
  | .pattern .allow _ => .allowRules
  | .pattern .block _ => .blockRules
  | .hide _ => .hidden

def HasEntries (rule : Rule) : Prop := ∀ hidden, rule = .hide hidden → 0 < hidden.entryCount

variable (s : RuleSet) (rule : Rule)

theorem insert_other_parts (part : Part) (other : part ≠ partOf rule) :
    s.SamePart (s.insert rule) part := by
  rcases rule with ⟨_ | _, host⟩ | ⟨_ | _, pattern⟩ | hidden
  all_goals cases part
  all_goals first | rfl | exact absurd rfl other

theorem insert_own_part (entries : HasEntries rule) :
    ¬ s.SamePart (s.insert rule) (partOf rule) := by
  intro same
  rcases rule with ⟨_ | _, host⟩ | ⟨_ | _, pattern⟩ | hidden
  · have size := congrArg Host.Registry.size same
    simp [insert, addHost, Host.Registry.insert] at size
  · have size := congrArg Host.Registry.size same
    simp [insert, addHost, Host.Registry.insert] at size
  · have size := congrArg Array.size same
    simp [insert, addPattern] at size
  · have size := congrArg Array.size same
    simp [insert, addPattern] at size
  · have count := congrArg HidingStore.entryCount same
    have added := entries hidden rfl
    simp only [insert, HidingStore.insert_entries] at count
    omega

theorem insert_not_empty (entries : HasEntries rule) : (s.insert rule).isEmpty = false := by
  rcases rule with ⟨_ | _, host⟩ | ⟨_ | _, pattern⟩ | hidden
  · simp [insert, addHost, isEmpty, Host.Registry.isEmpty, Host.Registry.insert]
  · simp [insert, addHost, isEmpty, Host.Registry.isEmpty, Host.Registry.insert]
  · simp [insert, addPattern, isEmpty]
  · simp [insert, addPattern, isEmpty]
  · have added := entries hidden rfl
    have some_entry : (s.hidden.insert hidden).isEmpty = false := by
      rw [Bool.eq_false_iff, Ne, HidingStore.is_empty_iff, HidingStore.insert_entries]
      omega
    simp [insert, isEmpty, some_entry]

def nullCount : Nat :=
  s.allowRules.countP PatternRule.isNull + s.blockRules.countP PatternRule.isNull

theorem insert_null_count :
    (s.insert rule).nullCount = s.nullCount + if rule.isNull then 1 else 0 := by
  rcases rule with ⟨_ | _, host⟩ | ⟨_ | _, pattern⟩ | hidden
  · rfl
  · rfl
  · simp only [nullCount, insert, addPattern, Array.countP_push]
    exact Nat.add_right_comm _ _ _
  · simp only [nullCount, insert, addPattern, Array.countP_push]
    exact (Nat.add_assoc _ _ _).symm
  · rfl

end RuleSet

namespace Rule

def isScoped : Rule → Bool
  | hide (.perDomain _ _ _) => true
  | _ => false

theorem of_line_has_entries (line : Text) (rule : Rule) (found : ofLine line = .ok (some rule)) :
    RuleSet.HasEntries rule := by
  rintro hidden rfl
  exact HidingRule.of_line_entry line hidden found

end Rule

namespace Tally

theorem add_count_rule (t u : Tally) (rule : Rule) :
    t + u.countRule rule = (t + u).countRule rule := by
  unfold countRule
  cases rule.isNull
  all_goals rcases rule with ⟨_ | _, host⟩ | ⟨_ | _, pattern⟩ | hidden
  all_goals rfl

theorem count_rule_rules (t : Tally) (rule : Rule) : (t.countRule rule).rules = t.rules + 1 := by
  rcases rule with ⟨_ | _, host⟩ | ⟨_ | _, pattern⟩ | hidden
  all_goals
    simp only [countRule, rules]
    omega

end Tally

namespace Builder

def isScopedLine (line : Text) : Bool := (Rule.inLine? line).any Rule.isScoped

/-- What one line does to a set: with a rule it changes one part, without a rule none, and a line
for some domains only has an entry for some domain. -/
structure ChangesOnePart (b : Builder) (line : Text) : Prop where
  rule : Rule.isInLine line = true → ∃! part, ¬ b.set.SamePart (b.addLine line).set part
  ruleless : Rule.isInLine line = false → (b.addLine line).set = b.set
  entry : isScopedLine line = true →
    b.set.counts.perDomain + b.set.counts.exempt <
      (b.addLine line).set.counts.perDomain + (b.addLine line).set.counts.exempt

theorem changes_one_part (b : Builder) (line : Text) : b.ChangesOnePart line := by
  have set := b.add_line_set line
  constructor
  · intro found
    rw [Rule.is_in_line_iff, Option.isSome_iff_exists] at found
    obtain ⟨rule, inLine⟩ := found
    have entries := Rule.of_line_has_entries line rule ((Rule.in_line_eq_some line rule).mp inLine)
    rw [inLine, Option.elim_some] at set
    rw [set]
    refine ⟨RuleSet.partOf rule, b.set.insert_own_part rule entries, ?_⟩
    intro part changed
    by_contra other
    exact changed (b.set.insert_other_parts rule part other)
  · intro none_found
    rw [Rule.is_in_line_iff, Option.isSome_eq_false_iff, Option.isNone_iff_eq_none] at none_found
    rw [set, none_found, Option.elim_none]
  · intro isScoped
    obtain ⟨rule, inLine, ofSome⟩ := (Option.any_eq_true ..).mp isScoped
    obtain ⟨selector, included, excluded, rfl⟩ : ∃ selector included excluded,
        rule = .hide (.perDomain selector included excluded) := by
      unfold Rule.isScoped at ofSome
      split at ofSome
      · exact ⟨_, _, _, rfl⟩
      · cases ofSome
    have entry := HidingRule.of_line_entry line _ ((Rule.in_line_eq_some line _).mp inLine)
    rw [set, inLine, Option.elim_some]
    simp only [RuleSet.counts, RuleSet.insert, HidingStore.insert_per_domain, HidingRule.entryCount,
      Array.size_append, List.size_toArray, List.length_map] at entry ⊢
    omega

/-- A tally agrees with a set that was built from these lines. -/
structure InStep (lines : List Text) (t : Tally) (s : RuleSet) : Prop where
  accounted : t.lines = t.skipped + t.dropped + t.rules
  allowedHosts : s.counts.allowedHosts = t.allowedHosts
  allowRules : s.counts.allowRules = t.allowRules
  blockedHosts : s.counts.blockedHosts = t.blockedHosts
  blockRules : s.counts.blockRules = t.blockRules
  nullRules : s.nullCount = t.nullRules
  hidingRules : s.counts.generic + lines.countP isScopedLine = t.hidingRules
  isEmpty : s.isEmpty = true ↔ t.rules = 0

theorem in_step_empty : InStep [] {} {} := by
  constructor
  case isEmpty =>
    simp [Tally.rules, RuleSet.isEmpty, Host.Registry.isEmpty, Host.Registry.exact,
      Host.Registry.withSubdomains, HidingStore.isEmpty]
  all_goals rfl

theorem in_step_rule (lines : List Text) (t : Tally) (s : RuleSet) (inStep : InStep lines t s)
    (line : Text) (rule : Rule) (found : Rule.ofLine line = .ok (some rule)) :
    InStep (lines ++ [line]) ({ t with lines := t.lines + 1 }.countRule rule) (s.insert rule) := by
  obtain ⟨accounted, allowedHosts, allowRules, blockedHosts, blockRules, nullRules, hidingRules,
    -⟩ := inStep
  have filled := s.insert_not_empty rule (Rule.of_line_has_entries line rule found)
  have nulls := s.insert_null_count rule
  have scopedLine : isScopedLine line = rule.isScoped := by
    rw [isScopedLine, (Rule.in_line_eq_some line rule).mpr found, Option.any_some]
  simp only [RuleSet.counts] at allowedHosts allowRules blockedHosts blockRules hidingRules
  rw [Tally.rules] at accounted
  constructor
  case nullRules =>
    rw [nulls, nullRules]
    rcases rule with ⟨_ | _, host⟩ | ⟨_ | _, pattern⟩ | hidden
    all_goals rfl
  all_goals
    rcases rule with ⟨_ | _, host⟩ | ⟨_ | _, pattern⟩ | ⟨selector | ⟨selector, included, excluded⟩⟩
  all_goals
    simp [RuleSet.counts, RuleSet.insert, RuleSet.addHost, RuleSet.addPattern, Host.Registry.insert,
      HidingStore.insert_generic, HidingStore.insert_per_domain, Tally.rules, Tally.countRule,
      scopedLine, Rule.isScoped] at filled ⊢
  all_goals omega

theorem in_step_without_rule (lines : List Text) (t : Tally) (s : RuleSet)
    (inStep : InStep lines t s) (line : Text) (none_found : Rule.inLine? line = none)
    (skipped dropped : Nat) (one_more : skipped + dropped = t.skipped + t.dropped + 1) :
    InStep (lines ++ [line]) { t with lines := t.lines + 1, skipped, dropped } s where
  accounted := by
    have accounted := inStep.accounted
    simp only [Tally.rules] at accounted ⊢
    omega
  allowedHosts := inStep.allowedHosts
  allowRules := inStep.allowRules
  blockedHosts := inStep.blockedHosts
  blockRules := inStep.blockRules
  nullRules := inStep.nullRules
  hidingRules := by
    rw [List.countP_append, List.countP_singleton, isScopedLine, none_found, Option.any_none,
      if_neg Bool.false_ne_true, Nat.add_zero]
    exact inStep.hidingRules
  isEmpty := inStep.isEmpty

/-- One more line keeps the tally in step. -/
theorem in_step_line (b : Builder) (lines : List Text) (inStep : InStep lines b.tally b.set)
    (line : Text) :
    InStep (lines ++ [line]) (b.addLine line).tally (b.addLine line).set := by
  unfold addLine
  rcases found : Rule.ofLine line with _ | _ | rule
  · have none_found : Rule.inLine? line = none := by rw [Rule.inLine?, found]
    exact in_step_without_rule lines b.tally b.set inStep line none_found _ _ rfl
  · have none_found : Rule.inLine? line = none := by rw [Rule.inLine?, found]
    exact in_step_without_rule lines b.tally b.set inStep line none_found _ _
      (Nat.add_right_comm ..)
  · exact in_step_rule lines b.tally b.set inStep line rule found

theorem in_step_lines (lines : List Text) :
    InStep lines (addLines {} lines).tally (addLines {} lines).set := by
  induction lines using List.reverseRecOn with
  | nil => exact in_step_empty
  | append_singleton lines line ih =>
      rw [addLines, List.foldl_append, List.foldl_cons, List.foldl_nil]
      exact in_step_line _ lines ih line

def after (b : Builder) (earlier : Tally) : Builder := { b with tally := earlier + b.tally }

theorem after_add_line (b : Builder) (earlier : Tally) (line : Text) :
    (b.after earlier).addLine line = (b.addLine line).after earlier := by
  unfold addLine after
  rcases Rule.ofLine line with _ | _ | rule
  · rfl
  · rfl
  · dsimp only
    rw [Tally.add_count_rule]
    rfl

theorem after_add_lines (b : Builder) (earlier : Tally) (lines : List Text) :
    (b.after earlier).addLines lines = (b.addLines lines).after earlier := by
  induction lines generalizing b with
  | nil => rfl
  | cons line lines ih =>
      change ((b.after earlier).addLine line).addLines lines = _
      rw [after_add_line, ih]
      rfl

theorem add_lines_rules (b : Builder) (lines : List Text) :
    (b.addLines lines).tally.rules = b.tally.rules + (lines.filterMap Rule.inLine?).length := by
  induction lines generalizing b with
  | nil => rfl
  | cons line lines ih =>
      change ((b.addLine line).addLines lines).tally.rules = _
      rw [ih, List.filterMap_cons]
      unfold addLine Rule.inLine?
      rcases Rule.ofLine line with _ | _ | rule
      · rfl
      · rfl
      · dsimp only
        rw [Tally.count_rule_rules, List.length_cons]
        simp only [Tally.rules]
        omega

theorem add_lines_trimmed (b : Builder) (lines : List Text) :
    b.addLines (lines.map trim) = b.addLines lines := by
  rw [addLines, List.foldl_map, addLines]
  congr 1
  funext before line
  rw [addLine, addLine, Rule.of_line_trim]

end Builder

/-- What lines are fed as, or that from the set so far a new builder goes on. -/
inductive Feed
  | line (line : Text)
  | lines (lines : List Text)
  | text (text : Text)
  | goOn
  deriving DecidableEq, Repr

def Feed.fed : Feed → List Text
  | .line fed => [fed]
  | .lines fed => fed
  | .text fed => fed.lines
  | .goOn => []

/-- The last of several builders, each of which went on from the set of the one before. -/
structure Build where
  builder : Builder := {}
  /-- The tallies of the builders before it, added up. -/
  earlier : Tally := {}
  deriving DecidableEq, Repr

namespace Build

def tally (b : Build) : Tally := b.earlier + b.builder.tally

def feed (b : Build) : Feed → Build
  | .line line => { b with builder := b.builder.addLine line }
  | .lines lines => { b with builder := b.builder.addLines lines }
  | .text text => { b with builder := b.builder.addText text }
  | .goOn => { builder := .ofSet b.builder.set, earlier := b.tally }

def run (feeds : List Feed) : Build := feeds.foldl feed {}

def fed (feeds : List Feed) : List Text := feeds.flatMap Feed.fed

def whole (b : Build) : Builder := b.builder.after b.earlier

theorem feed_whole (b : Build) (f : Feed) : (b.feed f).whole = b.whole.addLines f.fed := by
  cases f with
  | line line => exact (b.builder.after_add_line b.earlier line).symm
  | lines lines => exact (b.builder.after_add_lines b.earlier lines).symm
  | text text => exact (b.builder.after_add_lines b.earlier text.lines).symm
  | goOn => rfl

theorem run_whole (feeds : List Feed) : (run feeds).whole = Builder.addLines {} (fed feeds) := by
  have fromAny (b : Build) : (feeds.foldl feed b).whole = b.whole.addLines (fed feeds) := by
    induction feeds generalizing b with
    | nil => rfl
    | cons f feeds ih =>
        have joined : fed (f :: feeds) = f.fed ++ fed feeds := List.flatMap_cons
        rw [List.foldl_cons, ih, feed_whole, joined, Builder.addLines, Builder.addLines,
          Builder.addLines, List.foldl_append]
  exact fromAny {}

/-- However the lines were fed, the tally is in step with the set, at any time one more line changes
no more than one part, and set and tally are those of a text that has these lines. -/
theorem built_in_step (feeds : List Feed) :
    Builder.InStep (fed feeds) (run feeds).tally (run feeds).builder.set ∧
      (∀ line, (run feeds).builder.ChangesOnePart line) ∧
      (run feeds).whole = Builder.addLines {} (fed feeds) ∧
      ((∀ line ∈ fed feeds, '\n' ∉ line) → (unlines (fed feeds)).IsTextOf (fed feeds)) ∧
      ∀ text : Text, text.IsTextOf (fed feeds) →
        (run feeds).whole = RuleSet.ofList text ∧
          (run feeds).builder.set = (Rule.ofList text).foldl RuleSet.insert {} ∧
          (run feeds).tally.rules = (Rule.ofList text).length := by
  have whole := run_whole feeds
  refine ⟨?_, Builder.changes_one_part _, whole, unlines_is_text_of _, ?_⟩
  · have inStep := Builder.in_step_lines (fed feeds)
    rw [← whole] at inStep
    exact inStep
  · intro text isText
    have same : (run feeds).whole = RuleSet.ofList text := by
      rw [whole, ← Builder.add_lines_trimmed, ← isText, Builder.add_lines_trimmed]
      rfl
    refine ⟨same, ?_, ?_⟩
    · change (run feeds).whole.set = _
      rw [same]
      exact Builder.add_lines_set {} text.lines
    · change (run feeds).whole.tally.rules = _
      rw [same, RuleSet.ofList, Builder.addText, Builder.add_lines_rules]
      exact Nat.zero_add _

def threePortions : List Feed :=
  [.text "||a.example^\n##.ad\n".toList, .goOn, .line "~x.example##.promo".toList,
    .lines ["/ad(s/".toList, "! note".toList]]

def inOneText : Text :=
  "||a.example^\r\n##.ad\r\n~x.example##.promo\r\n/ad(s/\r\n! note".toList

theorem three_portions_in_step :
    (∀ line ∈ fed threePortions, '\n' ∉ line) ∧ inOneText.IsTextOf (fed threePortions) ∧
      (run threePortions).whole = RuleSet.ofList inOneText ∧
      (run threePortions).whole = RuleSet.ofList (unlines (fed threePortions)) ∧
      (run threePortions).tally.lines = 5 ∧ (run threePortions).tally.rules = 3 ∧
      (run threePortions).builder.set.isEmpty = false ∧
      Rule.isInLine "y.example##.promo".toList = true ∧
      ∃! part, ¬ (run threePortions).builder.set.SamePart
        ((run threePortions).builder.addLine "y.example##.promo".toList).set part := by
  obtain ⟨inStep, change, -, asText, same⟩ := built_in_step threePortions
  have single : ∀ line ∈ fed threePortions, '\n' ∉ line := by decide
  have isText : inOneText.IsTextOf (fed threePortions) := by decide
  have found : Rule.isInLine "y.example##.promo".toList = true := by decide
  have rules : (run threePortions).tally.rules = 3 := by
    rw [(same inOneText isText).2.2]
    decide +kernel
  have filled : (run threePortions).builder.set.isEmpty = false := by
    rw [Bool.eq_false_iff, Ne, inStep.isEmpty, rules]
    decide
  refine ⟨single, isText, (same inOneText isText).1, (same _ (asText single)).1, ?_, rules, filled,
    found, (change _).rule found⟩
  rw [inStep.accounted, rules]
  decide +kernel

end Build

end ContentFilter
