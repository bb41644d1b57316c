import ContentFilter.Proofs.Hiding.Exceptions
import ContentFilter.Proofs.Verdict.Blocking

namespace ContentFilter

namespace HidingStore

/-- Where no more is exempt, whatever is hidden stays hidden as long as it is registered. -/
theorem selectors_mono (h k : HidingStore)
    (generic : ∀ selector ∈ h.generic.toList, selector ∈ k.generic.toList)
    (perDomain : ∀ entry ∈ h.perDomain.toList, entry ∈ k.perDomain.toList)
    (exempt : ∀ entry ∈ k.exempt.toList, entry ∈ h.exempt.toList)
    (host selector : Text) (hidden : selector ∈ h.selectorsFor host) :
    selector ∈ k.selectorsFor host := by
  rw [mem_selectors_for] at hidden ⊢
  rcases hidden with everywhere | ⟨⟨domain, among, registered⟩, spared⟩
  · exact Or.inl (generic selector everywhere)
  · refine Or.inr ⟨⟨domain, among, perDomain _ registered⟩, ?_⟩
    intro other above
    exact mt (exempt _) (spared other above)

end HidingStore

namespace HidingRule

/-- The rule hides its selector on every page, or has domains that it is for and no others. -/
def OnlyHides (rule : HidingRule) : Prop :=
  (∃ selector, rule = generic selector) ∨
    ∃ selector included, rule = perDomain selector included []

/-- The rule has domains that it is not for and no others. -/
def OnlySpares (rule : HidingRule) : Prop :=
  ∃ selector excluded, rule = perDomain selector [] excluded

variable (rule : HidingRule) (h : HidingStore) (host selector : Text)

theorem hidden_of_only_hides (hides : rule.OnlyHides) (hidden : selector ∈ h.selectorsFor host) :
    selector ∈ (h.insert rule).selectorsFor host := by
  refine h.selectors_mono (h.insert rule) ?_ ?_ ?_ host selector hidden
  all_goals rcases hides with ⟨other, rfl⟩ | ⟨other, included, rfl⟩
  all_goals simp +contextual [HidingStore.insert_generic, HidingStore.insert_per_domain]

theorem hidden_before_only_spares (spares : rule.OnlySpares)
    (hidden : selector ∈ (h.insert rule).selectorsFor host) : selector ∈ h.selectorsFor host := by
  refine (h.insert rule).selectors_mono h ?_ ?_ ?_ host selector hidden
  all_goals obtain ⟨other, excluded, rfl⟩ := spares
  all_goals simp +contextual [HidingStore.insert_per_domain]

end HidingRule

theorem Rule.is_in_line_iff (line : Text) : isInLine line = (inLine? line).isSome := by
  unfold isInLine inLine?
  rcases ofLine line with _ | _ | _ <;> rfl

namespace RuleSet

/-- How the set after a rule was put into it can differ from the set before, by the kind of the
rule. -/
structure OwnEffect (rule : Rule) (before after : RuleSet) : Prop where
  allows : rule.action? = some .allow → ∀ enabled r,
    (after.judge enabled r).isBlocked = true → (before.judge enabled r).isBlocked = true
  blocks : rule.action? = some .block → ∀ enabled r,
    (before.judge enabled r).isBlocked = true → (after.judge enabled r).isBlocked = true
  network : rule.action? ≠ none → ∀ host, after.selectorsFor host = before.selectorsFor host
  verdicts : ∀ hidden, rule = .hide hidden → ∀ enabled r,
    after.judge enabled r = before.judge enabled r
  hides : ∀ hidden, rule = .hide hidden → hidden.OnlyHides → ∀ host,
    ∀ selector ∈ before.selectorsFor host, selector ∈ after.selectorsFor host
  spares : ∀ hidden, rule = .hide hidden → hidden.OnlySpares → ∀ host,
    ∀ selector ∈ after.selectorsFor host, selector ∈ before.selectorsFor host

theorem insert_own_effect (s : RuleSet) (rule : Rule) : OwnEffect rule s (s.insert rule) where
  allows isException enabled r := by
    apply blocked_mono
    · exact s.hits_insert rule .allow r
    · rw [s.hits_insert_other rule .block r (by simp [isException])]
      exact id
  blocks isBlock enabled r := by
    apply blocked_mono
    · rw [s.hits_insert_other rule .allow r (by simp [isBlock])]
      exact id
    · exact s.hits_insert rule .block r
  network isNetwork host := by
    rcases rule with ⟨_ | _, name⟩ | ⟨_ | _, pattern⟩ | hidden
    · rfl
    · rfl
    · rfl
    · rfl
    · exact absurd rfl isNetwork
  verdicts hidden isHiding enabled r := by
    rw [isHiding]
    rfl
  hides hidden isHiding only host selector before := by
    rw [isHiding]
    exact hidden.hidden_of_only_hides s.hidden host selector only before
  spares hidden isHiding only host selector after := by
    rw [isHiding] at after
    exact hidden.hidden_before_only_spares s.hidden host selector only after

/-- A line without a rule changes nothing in a set that it is added to, and a line with a rule no
more than such a rule can. -/
theorem added_line_has_own_effect (s : RuleSet) (line : Text) :
    (Rule.isInLine line = false → ((Builder.ofSet s).addLine line).set = s) ∧
      ∀ rule, Rule.ofLine line = .ok (some rule) →
        OwnEffect rule s ((Builder.ofSet s).addLine line).set := by
  rw [Builder.add_line_set]
  constructor
  · intro ruleless
    rw [Rule.is_in_line_iff, Option.isSome_eq_false_iff, Option.isNone_iff_eq_none] at ruleless
    rw [ruleless]
    rfl
  · intro rule found
    rw [(Rule.in_line_eq_some line rule).mpr found]
    exact insert_own_effect s rule

def blockAndHide : RuleSet := (ofList "||a.example^\nnews.a.example##.promo".toList).set

/-- A comment adds nothing. What is blocked beside an exception, and what is hidden beside a rule
that spares, was so before. -/
theorem lines_added_to_block_and_hide :
    ((Builder.ofSet blockAndHide).addLine "! @@||cdn.a.example^".toList).set = blockAndHide ∧
      (((Builder.ofSet blockAndHide).addLine "@@||cdn.a.example^".toList).set.judge true
        (.of "http://img.a.example/".toList [] [] [])).isBlocked = true ∧
      (blockAndHide.judge true (.of "http://img.a.example/".toList [] [] [])).isBlocked = true ∧
      ".promo".toList ∈ ((Builder.ofSet blockAndHide).addLine
        "~my.news.a.example##.promo".toList).set.selectorsFor "news.a.example".toList ∧
      ".promo".toList ∈ blockAndHide.selectorsFor "news.a.example".toList := by
  have comment := (added_line_has_own_effect blockAndHide "! @@||cdn.a.example^".toList).1 (by decide)
  have exception := (added_line_has_own_effect blockAndHide "@@||cdn.a.example^".toList).2
    (.host .allow "cdn.a.example".toList) (by decide)
  have spared := (added_line_has_own_effect blockAndHide "~my.news.a.example##.promo".toList).2
    (.hide (.perDomain ".promo".toList [] ["my.news.a.example".toList])) (by decide)
  have blocked : (((Builder.ofSet blockAndHide).addLine "@@||cdn.a.example^".toList).set.judge true
      (.of "http://img.a.example/".toList [] [] [])).isBlocked = true := by decide
  have hidden : ".promo".toList ∈ ((Builder.ofSet blockAndHide).addLine
      "~my.news.a.example##.promo".toList).set.selectorsFor "news.a.example".toList := by decide
  refine ⟨comment, blocked, exception.allows rfl true _ blocked, hidden, ?_⟩
  exact spared.spares _ rfl ⟨_, _, rfl⟩ _ _ hidden

end RuleSet

end ContentFilter
