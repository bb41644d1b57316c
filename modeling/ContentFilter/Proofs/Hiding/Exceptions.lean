import ContentFilter.Proofs.RuleSet.Contents
import ContentFilter.Proofs.Text.Lines
/-!
Exceptions to element hiding. An exception that is read as one keeps its selector from being hidden
on its domain and below, whatever the rest of the list says. But the mark `##` is looked for before
the mark `#@#`, and so an exception is read as another rule where a number sign at the front of
its selector, or two of them within it, make up the first mark.
-/
namespace ContentFilter

open Text

namespace HidingStore

theorem mem_for_domain (table : Array (Text × Text)) (domain selector : Text) :
    selector ∈ forDomain table domain ↔ (domain, selector) ∈ table.toList := by
  simp [forDomain]

theorem mem_selectors_for (h : HidingStore) (host selector : Text) :
    selector ∈ h.selectorsFor host ↔
      selector ∈ h.generic.toList ∨
        (∃ domain ∈ Host.chain (Host.lookupForm host), (domain, selector) ∈ h.perDomain.toList) ∧
          ∀ domain ∈ Host.chain (Host.lookupForm host), (domain, selector) ∉ h.exempt.toList := by
  rw [selectorsFor, List.mem_eraseDups, List.mem_append, domainSelectors, List.mem_filter]
  simp only [List.mem_flatMap, mem_for_domain, Bool.not_eq_true', List.contains_eq_mem,
    decide_eq_false_iff_not, not_exists, not_and]

end HidingStore

def Host.isDomainChar (c : Char) : Bool :=
  ('a' ≤ c && c ≤ 'z') || isAsciiDigit c || c == '.' || c == '-'

structure Host.IsDomain (domain : Text) : Prop where
  chars : ∀ c ∈ domain, isDomainChar c = true
  dotted : '.' ∈ domain
  labels : [] ∉ domain.splitAll '.'

namespace Host

theorem domain_char_bounds (c : Char) (domainChar : isDomainChar c = true) :
    0x2D ≤ c.toNat ∧ c.toNat ≤ 0x39 ∨ 0x61 ≤ c.toNat ∧ c.toNat ≤ 0x7A := by
  simp only [isDomainChar, isAsciiDigit, Bool.or_eq_true, Bool.and_eq_true, decide_eq_true_eq,
    beq_iff_eq, Char.le_def, UInt32.le_iff_toNat_le] at domainChar
  rcases domainChar with ((letter | digit) | rfl) | rfl
  · exact Or.inr letter
  · exact Or.inl ⟨le_trans (by decide) digit.1, digit.2⟩
  · decide
  · decide

theorem domain_char_not_blank (c : Char) (domainChar : isDomainChar c = true) :
    isBlank c = false := by
  have bounds := domain_char_bounds c domainChar
  simp only [isBlank, Bool.or_eq_false_iff, Bool.and_eq_false_iff, decide_eq_false_iff_not,
    beq_eq_false_iff_ne]
  omega

theorem domain_char_lower (c : Char) (domainChar : isDomainChar c = true) : c.toLower = c := by
  have bounds := domain_char_bounds c domainChar
  have small : ¬ (c.val ≥ 'A'.val ∧ c.val ≤ 'Z'.val) := by
    rintro ⟨low, high⟩
    have above : 0x41 ≤ c.toNat := UInt32.le_iff_toNat_le.mp low
    have below : c.toNat ≤ 0x5A := UInt32.le_iff_toNat_le.mp high
    omega
  exact dif_neg small

theorem split_all_last (front : Text) : [] ∈ splitAll '.' (front ++ ['.']) := by
  induction front using labels_induction with
  | single label dotless =>
      rw [split_all_append '.' label [] dotless]
      exact List.mem_cons_of_mem label List.mem_cons_self
  | more label rest dotless ih =>
      rw [List.append_assoc, List.cons_append, split_all_append '.' label _ dotless]
      exact List.mem_cons_of_mem label ih

variable {domain : Text}

theorem IsDomain.absent (isDomain : IsDomain domain) (c : Char) (other : isDomainChar c = false) :
    c ∉ domain := by
  intro member
  rw [isDomain.chars c member] at other
  cases other

theorem IsDomain.ne_nil (isDomain : IsDomain domain) : domain ≠ [] :=
  List.ne_nil_of_mem isDomain.dotted

theorem IsDomain.lower (isDomain : IsDomain domain) : domain.asciiLower = domain := by
  rw [asciiLower, List.map_congr_left fun c member => domain_char_lower c (isDomain.chars c member)]
  exact List.map_id domain

theorem IsDomain.trimmed (isDomain : IsDomain domain) : IsTrimmed domain := by
  constructor
  · intro c head
    exact domain_char_not_blank c (isDomain.chars c (List.mem_of_head? head))
  · intro c last
    exact domain_char_not_blank c (isDomain.chars c (List.mem_of_getLast? last))

theorem IsDomain.last (isDomain : IsDomain domain) :
    ∀ c ∈ domain.getLast?, (c == '.') = false := by
  intro c last
  rw [beq_eq_false_iff_ne]
  rintro rfl
  obtain ⟨front, rfl⟩ := List.getLast?_eq_some_iff.mp last
  exact isDomain.labels (split_all_last front)

theorem IsDomain.lookup (isDomain : IsDomain domain) (host : Text) (under : IsUnder host domain) :
    IsUnder (lookupForm host) domain := by
  rcases under with rfl | ⟨front, rfl⟩
  · rw [lookupForm, isDomain.lower, drop_end_while_eq _ _ isDomain.last]
    exact Or.inl rfl
  · have lowered : asciiLower (front ++ '.' :: domain) = asciiLower front ++ '.' :: domain := by
      have dot : Char.toLower '.' = '.' := by decide
      have stays := isDomain.lower
      unfold asciiLower at stays ⊢
      rw [List.map_append, List.map_cons, dot, stays]
    have kept : ∀ c ∈ (asciiLower front ++ '.' :: domain).getLast?, (c == '.') = false := by
      obtain ⟨c, r, rfl⟩ := List.exists_cons_of_ne_nil isDomain.ne_nil
      rw [List.getLast?_append_of_ne_nil _ (by simp), List.getLast?_cons_cons]
      exact isDomain.last
    rw [lookupForm, lowered, drop_end_while_eq _ _ kept]
    exact Or.inr ⟨asciiLower front, rfl⟩

end Host

namespace HidingRule

def selector : HidingRule → Text
  | generic selector => selector
  | perDomain selector _ _ => selector

theorem of_parts_selector (domains written : Text) (isException : Bool) (rule : HidingRule)
    (made : ofParts? domains written isException = some rule) : rule.selector = written.trim := by
  rcases of_parts_cases domains written isException rule made with rfl | ⟨_, _, -, rfl⟩ <;> rfl

theorem of_parts_domain (domain written : Text) (isException : Bool)
    (isDomain : Host.IsDomain domain) (trimmed : IsTrimmed written) (nonempty : written ≠ []) :
    ofParts? domain written isException =
      some (.perDomain written (if isException then [] else [domain])
        (if isException then [domain] else [])) := by
  have comma : ',' ∉ domain := isDomain.absent ',' (by decide)
  have sorted : addDomain isException ([], []) domain =
      (if isException then [] else [domain], if isException then [domain] else []) := by
    rw [addDomain, trim_eq domain isDomain.trimmed]
    split
    · exact absurd rfl isDomain.ne_nil
    · exact absurd List.mem_cons_self (isDomain.absent '~' (by decide))
    · exact absurd List.mem_cons_self (isDomain.absent '~' (by decide))
    · cases isException <;> simp [isDomain.lower]
  rw [ofParts?, trim_eq written trimmed, trim_eq domain isDomain.trimmed,
    if_neg (by simpa using nonempty), if_neg (by simpa using isDomain.ne_nil),
    split_all_whole ',' domain comma, List.foldl_cons, sorted]
  cases isException <;> rfl

end HidingRule

namespace Rule

def hidingMark : Text := ['#', '#']

def exceptionMark : Text := ['#', '@', '#']

theorem of_line_domain (domain rest : Text) (isDomain : Host.IsDomain domain)
    (trimmed : IsTrimmed (domain ++ rest)) :
    ofLine (domain ++ rest) =
      match (domain ++ rest).splitOnce hidingMark with
      | some (domains, selector) =>
        .ok ((HidingRule.ofParts? domains selector false).map .hide)
      | none =>
        match (domain ++ rest).splitOnce exceptionMark with
        | some (domains, selector) => .ok ((HidingRule.ofParts? domains selector true).map .hide)
        | none => (ofFilter .block (domain ++ rest) (domain ++ rest)).map some := by
  obtain ⟨c, more, rfl⟩ := List.exists_cons_of_ne_nil isDomain.ne_nil
  have excluded (other : Char) (outside : Host.isDomainChar other = false) : c ≠ other := by
    rintro rfl
    exact isDomain.absent c outside List.mem_cons_self
  have exclamation := excluded '!' (by decide)
  have bracket := excluded '[' (by decide)
  have atSign := excluded '@' (by decide)
  have isRule : ¬ ((c :: more ++ rest).isEmpty || isComment (c :: more ++ rest)) = true := by
    simp [isComment, exclamation, bracket]
  rw [ofLine, trim_eq _ trimmed, if_neg isRule]
  split
  · next _ same => exact absurd (List.cons.inj same).1 atSign
  · rfl

theorem split_once_exception (domain selector : Text) (absent : '#' ∉ domain) :
    splitOnce (domain ++ exceptionMark ++ selector) hidingMark =
      (splitOnce ('#' :: selector) hidingMark).map fun (front, back) =>
        (domain ++ ['#', '@'] ++ front, back) := by
  induction domain with
  | nil =>
      change splitOnce ('#' :: '@' :: '#' :: selector) hidingMark = _
      rw [splitOnce, splitOnce]
      cases splitOnce ('#' :: selector) hidingMark <;> simp [hidingMark]
  | cons c domain ih =>
      have differs : '#' ≠ c := fun same => absent (same ▸ List.mem_cons_self)
      have later := ih fun member => absent (List.mem_cons_of_mem c member)
      rw [List.cons_append, List.cons_append, splitOnce, later]
      cases splitOnce ('#' :: selector) hidingMark <;> simp [hidingMark, differs]

variable {domain selector : Text}

theorem trimmed_marked (mark : Text) (isDomain : Host.IsDomain domain)
    (trimmed : IsTrimmed selector) (nonempty : selector ≠ []) :
    IsTrimmed (domain ++ mark ++ selector) :=
  trimmed_append domain mark selector isDomain.trimmed trimmed isDomain.ne_nil nonempty

theorem of_line_hiding (isDomain : Host.IsDomain domain) (trimmed : IsTrimmed selector)
    (nonempty : selector ≠ []) :
    ofLine (domain ++ hidingMark ++ selector) =
      .ok (some (.hide (.perDomain selector [domain] []))) := by
  have whole := trimmed_marked hidingMark isDomain trimmed nonempty
  have cut := split_once_append domain selector ['#'] '#' (isDomain.absent '#' (by decide))
  rw [List.append_assoc] at whole ⊢
  rw [of_line_domain domain _ isDomain whole, ← List.append_assoc]
  rw [show splitOnce (domain ++ hidingMark ++ selector) hidingMark = some (domain, selector)
    from cut]
  simp [HidingRule.of_parts_domain domain selector false isDomain trimmed nonempty]

theorem of_line_exception (isDomain : Host.IsDomain domain) (trimmed : IsTrimmed selector)
    (nonempty : selector ≠ []) (clear : ¬ hidingMark <:+: '#' :: selector) :
    ofLine (domain ++ exceptionMark ++ selector) =
      .ok (some (.hide (.perDomain selector [] [domain]))) := by
  have absent : '#' ∉ domain := isDomain.absent '#' (by decide)
  have whole := trimmed_marked exceptionMark isDomain trimmed nonempty
  have unmarked : splitOnce (domain ++ exceptionMark ++ selector) hidingMark = none := by
    rw [split_once_exception domain selector absent, (split_once_none _ _ (by decide)).mpr clear]
    rfl
  have cut : splitOnce (domain ++ exceptionMark ++ selector) exceptionMark =
      some (domain, selector) := split_once_append domain selector ['@', '#'] '#' absent
  rw [List.append_assoc] at whole unmarked cut ⊢
  rw [of_line_domain domain _ isDomain whole, unmarked, cut]
  simp [HidingRule.of_parts_domain domain selector true isDomain trimmed nonempty]

/-- An exception in which the first mark is found is a rule on a shorter selector, if any. -/
theorem of_line_misread (isDomain : Host.IsDomain domain) (trimmed : IsTrimmed selector)
    (nonempty : selector ≠ []) (taken : hidingMark <:+: '#' :: selector) :
    ∃ rule : Option HidingRule,
      ofLine (domain ++ exceptionMark ++ selector) = .ok (rule.map .hide) ∧
        ∀ r ∈ rule, r.selector ≠ selector := by
  have absent : '#' ∉ domain := isDomain.absent '#' (by decide)
  have whole := trimmed_marked exceptionMark isDomain trimmed nonempty
  have marked : splitOnce ('#' :: selector) hidingMark ≠ none := by
    rw [ne_eq, split_once_none _ _ (by decide)]
    exact not_not_intro taken
  obtain ⟨⟨front, shorter⟩, found⟩ := Option.ne_none_iff_exists'.mp marked
  have less : shorter.length < selector.length := by
    have parts := congrArg List.length (split_once_some _ _ _ _ found)
    simp [hidingMark] at parts
    omega
  have cut := split_once_exception domain selector absent
  rw [found, Option.map_some] at cut
  refine ⟨HidingRule.ofParts? (domain ++ ['#', '@'] ++ front) shorter false, ?_, ?_⟩
  · rw [List.append_assoc] at whole cut ⊢
    rw [of_line_domain domain _ isDomain whole, cut]
  · rintro r made rfl
    rw [HidingRule.of_parts_selector _ shorter false r made] at less
    have bound : shorter.trim.length ≤ shorter.length := (trim_within shorter).length_le
    omega

end Rule

namespace RuleSet

theorem mem_generic (text selector : Text) :
    selector ∈ (ofList text).set.hidden.generic.toList ↔
      ∃ line ∈ text.lines, Rule.ofLine line = .ok (some (.hide (.generic selector))) := by
  rw [(holds_of_list text).generic, List.mem_filterMap]
  simp only [Rule.mem_of_list, Rule.generic_eq_some]
  constructor
  · rintro ⟨rule, ⟨line, member, found⟩, rfl⟩
    exact ⟨line, member, found⟩
  · rintro ⟨line, member, found⟩
    exact ⟨_, ⟨line, member, found⟩, rfl⟩

variable {domain selector : Text}

theorem exception_suppresses (text host : Text) (isDomain : Host.IsDomain domain)
    (found : ∃ line ∈ text.lines,
      Rule.ofLine line = .ok (some (.hide (.perDomain selector [] [domain]))))
    (under : Host.IsUnder host domain) (hidden : selector ∈ (ofList text).set.selectorsFor host) :
    selector ∈ (ofList text).set.hidden.generic.toList := by
  obtain ⟨line, member, read⟩ := found
  have exempt : (domain, selector) ∈ (ofList text).set.hidden.exempt.toList := by
    rw [(holds_of_list text).exempt, Rule.mem_flat_map_of_list]
    exact ⟨line, member, _, read, by simp [Rule.excluded]⟩
  have onChain : domain ∈ Host.chain (Host.lookupForm host) :=
    (Host.mem_chain_dotted _ _ isDomain.dotted).mpr (isDomain.lookup host under)
  rcases (HidingStore.mem_selectors_for _ host selector).mp hidden with generic | ⟨-, clear⟩
  · exact generic
  · exact absurd exempt (clear domain onChain)

theorem lines_of_two (first second : Text) (single : '\n' ∉ first ++ second)
    (kept : first.getLast? ≠ some '\r') (nonempty : second ≠ []) :
    lines (first ++ '\n' :: second) = [first, second] := by
  rw [List.mem_append, not_or] at single
  rw [lines_line_feed, lines_single first single.1 kept, lines_whole second single.2 nonempty]
  rfl

theorem misread_pair (isDomain : Host.IsDomain domain) (trimmed : IsTrimmed selector)
    (nonempty : selector ≠ []) (taken : Rule.hidingMark <:+: '#' :: selector) (line : Text)
    (rule : HidingRule)
    (member : line ∈ [domain ++ Rule.hidingMark ++ selector,
      domain ++ Rule.exceptionMark ++ selector])
    (found : Rule.ofLine line = .ok (some (.hide rule))) (same : rule.selector = selector) :
    rule = .perDomain selector [domain] [] := by
  rcases List.mem_pair.mp member with rfl | rfl
  · rw [Rule.of_line_hiding isDomain trimmed nonempty] at found
    exact (Rule.hide.inj (Option.some.inj (Except.ok.inj found))).symm
  · obtain ⟨misread, read, other⟩ := Rule.of_line_misread isDomain trimmed nonempty taken
    rw [read] at found
    obtain ⟨r, made, isHide⟩ := Option.map_eq_some_iff.mp (Except.ok.inj found)
    exact absurd (Rule.hide.inj isHide ▸ same) (other r made)

/-- An exception that is read as another rule does not take back the rule before it. -/
theorem misread_exception_fails (isDomain : Host.IsDomain domain) (trimmed : IsTrimmed selector)
    (nonempty : selector ≠ []) (single : '\n' ∉ selector)
    (taken : Rule.hidingMark <:+: '#' :: selector) :
    ∃ text : Text, domain ++ Rule.exceptionMark ++ selector ∈ text.lines ∧
      selector ∈ (ofList text).set.selectorsFor domain ∧
        selector ∉ (ofList text).set.hidden.generic.toList := by
  have feedless : '\n' ∉ domain := isDomain.absent '\n' (by decide)
  have whole := Rule.trimmed_marked Rule.hidingMark isDomain trimmed nonempty
  obtain ⟨text, cut⟩ : ∃ text : Text, text.lines =
      [domain ++ Rule.hidingMark ++ selector, domain ++ Rule.exceptionMark ++ selector] := by
    refine ⟨_, lines_of_two _ _ ?_ (last_ne_carriage_return _ whole) (by simp [isDomain.ne_nil])⟩
    simp [feedless, single, Rule.hidingMark, Rule.exceptionMark]
  have included := Rule.of_line_hiding isDomain trimmed nonempty
  have onLine := misread_pair isDomain trimmed nonempty taken
  refine ⟨text, ?_, ?_, ?_⟩
  · rw [cut]
    exact List.mem_pair.mpr (Or.inr rfl)
  · refine (HidingStore.mem_selectors_for _ domain selector).mpr (Or.inr ⟨⟨domain, ?_, ?_⟩, ?_⟩)
    · exact (Host.mem_chain_dotted _ _ isDomain.dotted).mpr (isDomain.lookup domain (Or.inl rfl))
    · rw [(holds_of_list text).perDomain, Rule.mem_flat_map_of_list, cut]
      exact ⟨_, List.mem_cons_self, _, included, by simp [Rule.included]⟩
    · intro above _ exempt
      rw [(holds_of_list text).exempt, Rule.mem_flat_map_of_list, cut] at exempt
      obtain ⟨line, member, rule, found, excluded⟩ := exempt
      unfold Rule.excluded at excluded
      split at excluded
      · obtain ⟨_, -, pair⟩ := List.mem_map.mp excluded
        have same := onLine line _ member found (Prod.mk.inj pair).2
        simp only [HidingRule.perDomain.injEq] at same
        simp [same.2.2] at excluded
      · cases excluded
  · intro generic
    rw [mem_generic, cut] at generic
    obtain ⟨line, member, found⟩ := generic
    cases onLine line _ member found rfl

/-- The exceptions that always suppress what they name are those that are read as exceptions. -/
theorem exceptions_suppress_iff (domain selector : Text) (isDomain : Host.IsDomain domain)
    (trimmed : selector.trim = selector) (nonempty : selector ≠ []) (single : '\n' ∉ selector) :
    (∀ text host : Text, domain ++ Rule.exceptionMark ++ selector ∈ text.lines →
      Host.IsUnder host domain → selector ∈ (ofList text).set.selectorsFor host →
        selector ∈ (ofList text).set.hidden.generic.toList) ↔
      ¬ Rule.hidingMark <:+: '#' :: selector := by
  have ends := trimmed_of_trim_eq selector trimmed
  constructor
  · intro suppressed taken
    obtain ⟨text, present, hidden, specific⟩ :=
      misread_exception_fails isDomain ends nonempty single taken
    exact specific (suppressed text domain present (Or.inl rfl) hidden)
  · intro clear text host present under hidden
    have read := Rule.of_line_exception isDomain ends nonempty clear
    exact exception_suppresses text host isDomain ⟨_, present, read⟩ under hidden

/-- On one domain an exception for a class always suppresses it, one for an id does not. -/
theorem class_and_id_exceptions :
    (∀ text host : Text, "example.com#@#.ad".toList ∈ text.lines →
      Host.IsUnder host "example.com".toList →
        ".ad".toList ∈ (ofList text).set.selectorsFor host →
          ".ad".toList ∈ (ofList text).set.hidden.generic.toList) ∧
      ¬ ∀ text host : Text, "example.com#@##ad".toList ∈ text.lines →
        Host.IsUnder host "example.com".toList →
          "#ad".toList ∈ (ofList text).set.selectorsFor host →
            "#ad".toList ∈ (ofList text).set.hidden.generic.toList := by
  have isDomain : Host.IsDomain "example.com".toList :=
    ⟨List.all_eq_true.mp (by decide), by decide, by decide⟩
  constructor
  · exact (exceptions_suppress_iff "example.com".toList ".ad".toList isDomain (by decide)
      (by decide) (by decide)).mpr (by decide)
  · intro suppressed
    exact (exceptions_suppress_iff "example.com".toList "#ad".toList isDomain (by decide)
      (by decide) (by decide)).mp suppressed (by decide)

end RuleSet

end ContentFilter
