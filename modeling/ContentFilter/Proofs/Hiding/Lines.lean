import ContentFilter.Proofs.RuleSet.Contents

namespace ContentFilter

section Firsts

variable {α β : Type} [BEq α]

theorem erase_dups_induction {motive : List α → Prop} (nil : motive [])
    (cons : ∀ a rest, motive (rest.filter fun b => !b == a) → motive (a :: rest)) (l : List α) :
    motive l := by
  induction h : l.length using Nat.strong_induction_on generalizing l with
  | _ n ih =>
      cases l with
      | nil => exact nil
      | cons a rest =>
          have bound := List.length_filter_le (fun b => !b == a) rest
          have shorter : (rest.filter fun b => !b == a).length < n := by
            rw [← h, List.length_cons]
            omega
          exact cons a rest (ih _ shorter _ rfl)

variable [LawfulBEq α]

theorem erase_dups_filter (p : α → Bool) (l : List α) :
    (l.filter p).eraseDups = l.eraseDups.filter p := by
  induction l using erase_dups_induction with
  | nil => rfl
  | cons a rest ih =>
      rw [List.eraseDups_cons, List.filter_cons, List.filter_cons, ← ih, List.filter_comm]
      by_cases kept : p a = true
      · rw [if_pos kept, if_pos kept, List.eraseDups_cons]
      · have absent : (rest.filter p).filter (fun b => !b == a) = rest.filter p := by
          apply List.filter_eq_self.mpr
          intro b member
          have holds := (List.mem_filter.mp member).2
          simp only [Bool.not_eq_true', beq_eq_false_iff_ne]
          intro same
          exact kept (same ▸ holds)
        rw [if_neg kept, if_neg kept, absent]

theorem nodup_erase_dups (l : List α) : l.eraseDups.Nodup := by
  induction l using erase_dups_induction with
  | nil => simp
  | cons a rest ih =>
      rw [List.eraseDups_cons, List.nodup_cons]
      exact ⟨by simp, ih⟩

theorem erase_dups_append_congr {front front' back back' : List α}
    (first : front.eraseDups = front'.eraseDups) (second : back.eraseDups = back'.eraseDups) :
    (front ++ back).eraseDups = (front' ++ back').eraseDups := by
  have members (a : α) : a ∈ front ↔ a ∈ front' := by
    rw [← List.mem_eraseDups, first, List.mem_eraseDups]
  have rest : (back.removeAll front).eraseDups = (back'.removeAll front').eraseDups := by
    calc (back.removeAll front).eraseDups
      _ = back.eraseDups.filter (!List.elem · front) := erase_dups_filter _ back
      _ = back'.eraseDups.filter (!List.elem · front') := by
          rw [second]
          apply List.filter_congr
          intro a _
          rw [Bool.eq_iff_iff]
          simp [members a]
      _ = (back'.removeAll front').eraseDups := (erase_dups_filter _ back').symm
  rw [List.eraseDups_append, List.eraseDups_append, first, rest]

theorem erase_dups_flat_map_congr {f g : β → List α} {l : List β}
    (same : ∀ b ∈ l, (f b).eraseDups = (g b).eraseDups) :
    (l.flatMap f).eraseDups = (l.flatMap g).eraseDups := by
  induction l with
  | nil => rfl
  | cons b l ih =>
      rw [List.flatMap_cons, List.flatMap_cons]
      apply erase_dups_append_congr
      · exact same b List.mem_cons_self
      · exact ih fun other member => same other (List.mem_cons_of_mem b member)

theorem erase_dups_replicate (n : Nat) (a : α) :
    (List.replicate n a).eraseDups = if n = 0 then [] else [a] := by
  cases n with
  | zero => rfl
  | succ n => simp [List.replicate_succ, List.eraseDups_cons]

end Firsts

namespace HidingRule

def inLine? (line : Text) : Option HidingRule :=
  match Rule.ofLine line with
  | .ok (some (.hide rule)) => some rule
  | _ => none

def everywhere? : HidingRule → Option Text
  | generic selector => some selector
  | perDomain _ _ _ => none

def on? (domain : Text) : HidingRule → Option Text
  | generic _ => none
  | perDomain selector included _ => if domain ∈ included then some selector else none

def spared? (domain : Text) : HidingRule → Option Text
  | generic _ => none
  | perDomain selector _ excluded => if domain ∈ excluded then some selector else none

/-- What the lines of a list hide on the pages of a chain of domains. -/
def selectorsOf (lines chain : List Text) : List Text :=
  let rules := lines.filterMap inLine?
  let spared := chain.flatMap fun domain => rules.filterMap (spared? domain)
  let specific := chain.flatMap fun domain => rules.filterMap (on? domain)
  (rules.filterMap everywhere? ++ specific.filter (!spared.contains ·)).eraseDups

/-- Some line of a list has a rule in which `part` finds this selector. -/
def Says (lines : List Text) (part : HidingRule → Option Text) (selector : Text) : Prop :=
  ∃ line ∈ lines, ∃ rule, inLine? line = some rule ∧ part rule = some selector

theorem mem_rules_iff_says (lines : List Text) (part : HidingRule → Option Text)
    (selector : Text) :
    selector ∈ (lines.filterMap inLine?).filterMap part ↔ Says lines part selector := by
  simp only [List.mem_filterMap, Says]
  constructor
  · intro ⟨rule, ⟨line, member, found⟩, named⟩
    exact ⟨line, member, rule, found, named⟩
  · intro ⟨line, member, rule, found, named⟩
    exact ⟨rule, ⟨line, member, found⟩, named⟩

theorem mem_selectors_of (lines chain : List Text) (selector : Text) :
    selector ∈ selectorsOf lines chain ↔
      Says lines everywhere? selector ∨
        (∃ domain ∈ chain, Says lines (on? domain) selector) ∧
          ∀ domain ∈ chain, ¬ Says lines (spared? domain) selector := by
  rw [selectorsOf, List.mem_eraseDups, List.mem_append, List.mem_filter]
  simp only [List.mem_flatMap, mem_rules_iff_says, Bool.not_eq_true', List.contains_eq_mem,
    decide_eq_false_iff_not, not_exists, not_and]

theorem entries_replicate (domains : List Text) (selector domain : Text) :
    ((domains.map (·, selector)).filter (·.1 == domain)).map (·.2) =
      List.replicate (domains.count domain) selector := by
  induction domains with
  | nil => rfl
  | cons other domains ih =>
      by_cases same : other = domain
      · simp [same, ih, List.replicate_succ]
      · simp [same, ih]

theorem erase_dups_entries (domains : List Text) (selector domain : Text) :
    (((domains.map (·, selector)).filter (·.1 == domain)).map (·.2)).eraseDups =
      (if domain ∈ domains then some selector else none).toList.eraseDups := by
  rw [entries_replicate, erase_dups_replicate]
  by_cases member : domain ∈ domains
  · simp [member, List.count_eq_zero, List.eraseDups_cons]
  · simp [member, List.count_eq_zero]

end HidingRule

namespace RuleSet

open HidingRule

theorem flat_map_rules {α : Type} (part : Rule → List α) (onHidden : HidingRule → List α)
    (hide : ∀ rule, part (.hide rule) = onHidden rule)
    (host : ∀ action name, part (.host action name) = [])
    (pattern : ∀ action rule, part (.pattern action rule) = []) (text : Text) :
    (Rule.ofList text).flatMap part = (text.lines.filterMap inLine?).flatMap onHidden := by
  change (text.lines.filterMap Rule.inLine?).flatMap part = _
  induction text.lines with
  | nil => rfl
  | cons line lines ih =>
      rw [List.filterMap_cons, List.filterMap_cons, Rule.inLine?, inLine?]
      rcases Rule.ofLine line with _ | _ | ⟨action, name⟩ | ⟨action, rule⟩ | rule
      · exact ih
      · exact ih
      · simp only [List.flatMap_cons, host, List.nil_append, ih]
      · simp only [List.flatMap_cons, pattern, List.nil_append, ih]
      · simp only [List.flatMap_cons, hide, ih]

theorem generic_of_list (text : Text) :
    (ofList text).set.hidden.generic.toList =
      (text.lines.filterMap inLine?).filterMap everywhere? := by
  rw [(holds_of_list text).generic, List.filterMap_eq_flatMap_toList,
    List.filterMap_eq_flatMap_toList everywhere?]
  apply flat_map_rules
  · intro rule
    cases rule <;> rfl
  · exact fun _ _ => rfl
  · exact fun _ _ => rfl

theorem for_domain_of_list (text domain : Text) (table : Array (Text × Text))
    (part : Rule → List (Text × Text)) (named : HidingRule → Option Text)
    (filled : table.toList = (Rule.ofList text).flatMap part)
    (hide : ∀ rule, (((part (.hide rule)).filter (·.1 == domain)).map (·.2)).eraseDups =
      (named rule).toList.eraseDups)
    (host : ∀ action name, part (.host action name) = [])
    (pattern : ∀ action rule, part (.pattern action rule) = []) :
    (HidingStore.forDomain table domain).eraseDups =
      ((text.lines.filterMap inLine?).filterMap named).eraseDups := by
  have entries : HidingStore.forDomain table domain =
      (text.lines.filterMap inLine?).flatMap fun rule =>
        ((part (.hide rule)).filter (·.1 == domain)).map (·.2) := by
    rw [HidingStore.forDomain, filled, List.filter_flatMap, List.map_flatMap]
    apply flat_map_rules
    · intro rule
      rfl
    · intro action name
      rw [host]
      rfl
    · intro action rule
      rw [pattern]
      rfl
  rw [entries, List.filterMap_eq_flatMap_toList named]
  apply erase_dups_flat_map_congr
  intro rule _
  exact hide rule

theorem included_of_list (text domain : Text) :
    (HidingStore.forDomain (ofList text).set.hidden.perDomain domain).eraseDups =
      ((text.lines.filterMap inLine?).filterMap (on? domain)).eraseDups := by
  apply for_domain_of_list text domain _ _ _ (holds_of_list text).perDomain
  · intro rule
    cases rule with
    | generic selector => rfl
    | perDomain selector included excluded => exact erase_dups_entries included selector domain
  · exact fun _ _ => rfl
  · exact fun _ _ => rfl

theorem excluded_of_list (text domain : Text) :
    (HidingStore.forDomain (ofList text).set.hidden.exempt domain).eraseDups =
      ((text.lines.filterMap inLine?).filterMap (spared? domain)).eraseDups := by
  apply for_domain_of_list text domain _ _ _ (holds_of_list text).exempt
  · intro rule
    cases rule with
    | generic selector => rfl
    | perDomain selector included excluded => exact erase_dups_entries excluded selector domain
  · exact fun _ _ => rfl
  · exact fun _ _ => rfl

theorem selectors_for_of_list (text host : Text) :
    (ofList text).set.selectorsFor host =
      selectorsOf text.lines (Host.chain (Host.lookupForm host)) := by
  rw [selectorsFor, HidingStore.selectorsFor, HidingStore.domainSelectors, selectorsOf]
  generalize Host.chain (Host.lookupForm host) = chain
  have specific : (chain.flatMap (HidingStore.forDomain (ofList text).set.hidden.perDomain)).eraseDups =
      (chain.flatMap fun domain =>
        (text.lines.filterMap inLine?).filterMap (on? domain)).eraseDups := by
    apply erase_dups_flat_map_congr
    intro domain _
    exact included_of_list text domain
  have spared : (chain.flatMap (HidingStore.forDomain (ofList text).set.hidden.exempt)).eraseDups =
      (chain.flatMap fun domain =>
        (text.lines.filterMap inLine?).filterMap (spared? domain)).eraseDups := by
    apply erase_dups_flat_map_congr
    intro domain _
    exact excluded_of_list text domain
  apply erase_dups_append_congr
  · rw [generic_of_list]
  · rw [erase_dups_filter, erase_dups_filter, specific]
    apply List.filter_congr
    intro selector _
    congr 1
    rw [Bool.eq_iff_iff, List.contains_iff_mem, List.contains_iff_mem, ← List.mem_eraseDups, spared,
      List.mem_eraseDups]

/-- A set hides on a host what its list says of the domains that the host lies under, line by line.
Every selector is hidden once: all that some line names for every page, and of the others those
that a line names for a domain of the host while no line spares them on such a domain. -/
theorem selectors_read_lines (text host : Text) :
    (ofList text).set.selectorsFor host =
        selectorsOf text.lines (Host.chain (Host.lookupForm host)) ∧
      ((ofList text).set.selectorsFor host).Nodup ∧
      ∀ selector, selector ∈ (ofList text).set.selectorsFor host ↔
        Says text.lines everywhere? selector ∨
          (∃ domain ∈ Host.chain (Host.lookupForm host), Says text.lines (on? domain) selector) ∧
            ∀ domain ∈ Host.chain (Host.lookupForm host),
              ¬ Says text.lines (spared? domain) selector := by
  rw [selectors_for_of_list]
  refine ⟨rfl, ?_, ?_⟩
  · exact nodup_erase_dups _
  · exact mem_selectors_of text.lines _

end RuleSet

end ContentFilter
