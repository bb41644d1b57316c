import ContentFilter.Live.Filter
import ContentFilter.Proofs.Rule.SingleOptions
/-!
Pages whose host is written with the dot of the root at its end. Registered hosts and selectors are
looked up without this dot, but the party of a request, the sites of a rule and the hosts that are
trusted are not: to them it is another host, which no domain of a rule has below it.
-/
namespace ContentFilter

open Text

namespace Host

def rooted (host : Text) : Text := host ++ ['.']

section rooted

variable (host : Text)

theorem rooted_lower : (rooted host).asciiLower = rooted host.asciiLower := by
  rw [rooted, asciiLower, List.map_append]
  rfl

theorem lookup_form_rooted : lookupForm (rooted host) = lookupForm host := by
  rw [lookupForm, rooted_lower, rooted, drop_end_while_concat, if_pos (by decide)]
  rfl

theorem mem_suffixes_rooted (domain : Text) :
    domain ∈ suffixes (rooted host) ↔ ∃ bare, domain = rooted bare ∧ IsUnder host bare := by
  rw [mem_suffixes, rooted]
  constructor
  · intro among
    rcases among.2 with whole | ⟨dotted, below⟩
    · exact ⟨host, whole, Or.inl rfl⟩
    · rcases List.suffix_concat_iff.mp below with nothing | ⟨front, ended, within⟩
      · cases nothing
      · cases front with
        | nil =>
            obtain rfl := (List.cons.inj ended).2
            cases dotted
        | cons c bare =>
            obtain ⟨rfl, same⟩ := List.cons.inj ended
            exact ⟨bare, same, Or.inr within⟩
  · intro ended
    obtain ⟨bare, rfl, under⟩ := ended
    refine ⟨by simp, ?_⟩
    rcases under with rfl | ⟨front, rfl⟩
    · exact Or.inl rfl
    · exact Or.inr ⟨by simp [rooted], front, by simp [rooted]⟩

theorem not_within_rooted (domain : Text) (canonical : normalize? domain = some domain) :
    ¬ IsWithin (rooted host) domain := by
  intro within
  have among := (mem_suffixes_within _ _ (normalize_ne_nil domain domain canonical)).mpr within
  obtain ⟨bare, same, -⟩ := (mem_suffixes_rooted host domain).mp among
  apply rootless_of_normalize domain domain canonical
  rw [same, rooted, List.getLast?_concat]

end rooted

end Host

theorem Settings.is_trusted_rooted (s : Settings) (host : Text) :
    s.isTrusted (Host.rooted host) = true ↔
      ∃ trusted ∈ s.trustedHosts, ∃ domain,
        trusted.asciiLower = Host.rooted domain ∧ Host.IsUnder host.asciiLower domain := by
  simp only [isTrusted, Host.rooted_lower, List.any_eq_true, equalIgnoringCase, beq_iff_eq]
  constructor
  · intro found
    obtain ⟨suffix, among, trusted, member, same⟩ := found
    rw [← Host.rooted_lower] at among
    rw [Host.mem_suffixes_small (Host.rooted host) suffix among] at same
    rw [Host.rooted_lower, Host.mem_suffixes_rooted] at among
    obtain ⟨domain, ended, under⟩ := among
    exact ⟨trusted, member, domain, same.trans ended, under⟩
  · intro found
    obtain ⟨trusted, member, domain, ended, under⟩ := found
    refine ⟨Host.rooted domain, ?_, trusted, member, ?_⟩
    · exact (Host.mem_suffixes_rooted _ _).mpr ⟨domain, rfl, under⟩
    · rw [← ended, ascii_lower_again]

theorem HidingStore.selectors_for_rooted (h : HidingStore) (host : Text) :
    h.selectorsFor (Host.rooted host) = h.selectorsFor host := by
  rw [selectorsFor, selectorsFor, Host.lookup_form_rooted]

theorem Sites.excepted_canonical (token domain : Text) (found : excepted? token = some domain) :
    ∃ written, Host.normalize? written = some domain := by
  rw [excepted?] at found
  split at found
  · exact ⟨_, found⟩
  · cases found

namespace Options

def Lists (options : List Text) (domain : Text) : Prop :=
  Names options domain ∨ Excepts options domain

theorem listed_canonical (options : List Text) (domain : Text) (listed : Lists options domain) :
    Host.normalize? domain = some domain := by
  rcases listed with ⟨token, -, found⟩ | ⟨token, -, found⟩
  · obtain ⟨-, canonical⟩ := (Sites.named_eq_some_iff token domain).mp found
    exact Host.normalize_again token domain canonical
  · obtain ⟨written, canonical⟩ := Sites.excepted_canonical token domain found
    exact Host.normalize_again written domain canonical

theorem allows_rooted_iff (options : List Text) (host : Text) :
    AllowsHost Host.IsWithin options (Host.rooted host) ↔ ¬ ∃ domain, Names options domain := by
  have outside (domain : Text) (listed : Lists options domain) :
      ¬ Host.IsWithin (Host.rooted host) domain :=
    Host.not_within_rooted host domain (listed_canonical options domain listed)
  rw [AllowsHost, and_iff_left fun domain excepts => outside domain (.inr excepts)]
  constructor
  · intro allowed some_named
    obtain ⟨domain, names, within⟩ := allowed some_named
    exact outside domain (.inl names) within
  · intro none_named some_named
    exact absurd some_named none_named

end Options

theorem Party.eq_iff (one : Party) (p q : Party) : p = q ↔ (p = one ↔ q = one) := by
  cases one <;> cases p <;> cases q <;> decide

namespace Request

theorem party_first_iff (r : Request) :
    r.party = .first ↔
      r.site = [] ∨ r.host = [] ∨ r.host.equalIgnoringCase r.site = true := by
  rw [party, ← List.isEmpty_iff, ← List.isEmpty_iff, ← or_assoc, ← Bool.or_eq_true,
    ← Bool.or_eq_true]
  split
  · rename_i first
    exact iff_of_true rfl first
  · rename_i third
    exact iff_of_false (by simp) third

/-- The request goes to no host that is known, or to one that is not the page's, be this with the
dot of the root or without it. -/
def GoesElsewhere (r : Request) : Prop :=
  r.host = [] ∨ ¬ r.host.equalIgnoringCase r.site = true ∧
    ¬ r.host.equalIgnoringCase (Host.rooted r.site) = true

def onRooted (r : Request) : Request :=
  of r.url (Host.rooted r.site) r.referer r.exemptReferers

theorem party_rooted_iff (r : Request) (some_site : r.site ≠ []) :
    r.onRooted.party = r.party ↔ r.GoesElsewhere := by
  have apart : r.host.equalIgnoringCase r.site = true →
      ¬ r.host.equalIgnoringCase (Host.rooted r.site) = true := by
    rw [equalIgnoringCase, equalIgnoringCase, beq_iff_eq, beq_iff_eq]
    intro here there
    simpa [asciiLower, Host.rooted] using congrArg List.length (here.symm.trans there)
  have host : r.onRooted.host = r.host := rfl
  have site : r.onRooted.site = Host.rooted r.site := rfl
  have some_rooted : Host.rooted r.site ≠ [] := by simp [Host.rooted]
  rw [Party.eq_iff .first, party_first_iff, party_first_iff, host, site, GoesElsewhere]
  simp only [some_site, some_rooted, false_or]
  tauto

end Request

namespace PatternRule

/-- The rule is for the requests of one party only. -/
def asksParty : PatternRule → Bool
  | party _ _ => true
  | _ => false

theorem unrestricted_rooted (rule : PatternRule) (r : Request)
    (alike : rule.asksParty = true → r.onRooted.party = r.party) :
    rule.unrestricted.accepts r.onRooted = rule.unrestricted.accepts r := by
  have url : r.onRooted.lowerUrl = r.lowerUrl := r.lowerUrl_eq.symm
  cases rule with
  | standard filter =>
      simp only [unrestricted, accepts, PatternFilter.accepts, url, Option.all_none]
  | party filter parties =>
      simp only [unrestricted, accepts, PatternFilter.accepts, url, Option.all_none, alike rfl]
  | null source => rfl

end PatternRule

namespace Rule

open Options

/-- The line names or excepts a domain that the host is within. -/
def ListsDomainOf (line host : Text) : Prop :=
  ∃ domain, Lists (writtenIn (filterIn line)) domain ∧ Host.IsWithin host.asciiLower domain

theorem accepts_rooted_iff (line : Text) (action : Action) (rule : PatternRule)
    (found : ofLine line = .ok (some (.pattern action rule))) (r : Request) :
    rule.accepts r.onRooted = true ↔
      rule.unrestricted.accepts r.onRooted = true ∧
        ¬ ∃ domain, Names (writtenIn (filterIn line)) domain := by
  have made := of_line_pattern line action rule found
  have accepts := (PatternRule.of_filter_accepts _ _ rule made).2
  have site : r.onRooted.site.asciiLower = Host.rooted r.site.asciiLower := Host.rooted_lower r.site
  rw [accepts, site, allows_rooted_iff]

theorem accepts_rooted (line : Text) (action : Action) (rule : PatternRule)
    (found : ofLine line = .ok (some (.pattern action rule))) (r : Request)
    (alike : rule.asksParty = true → r.onRooted.party = r.party)
    (apart : ¬ ListsDomainOf line r.site) : rule.accepts r.onRooted = rule.accepts r := by
  have made := of_line_pattern line action rule found
  have accepts := (PatternRule.of_filter_accepts _ _ rule made).2
  have outside (domain : Text) (listed : Lists (writtenIn (filterIn line)) domain) :
      ¬ Host.IsWithin r.site.asciiLower domain :=
    fun within => apart ⟨domain, listed, within⟩
  rw [Bool.eq_iff_iff, accepts_rooted_iff line action rule found, accepts,
    rule.unrestricted_rooted r alike, AllowsHost]
  refine and_congr_right fun _ => ?_
  constructor
  · intro none_named
    refine ⟨fun named => absurd named none_named, ?_⟩
    exact fun domain excepts => outside domain (.inr excepts)
  · intro allowed named
    obtain ⟨domain, names, within⟩ := allowed.1 named
    exact outside domain (.inl names) within

/-- The rule of the line may take a request from the page with the dot for another one. -/
def TellsApart (r : Request) (line : Text) : Prop :=
  ∃ action rule, ofLine line = .ok (some (.pattern action rule)) ∧
    (rule.asksParty = true ∧ ¬ r.GoesElsewhere ∨ ListsDomainOf line r.site)

end Rule

namespace RuleSet

theorem mem_rules_of_list (text : Text) (action : Action) (rule : PatternRule)
    (member : rule ∈ (ofList text).set.rulesOf action) :
    ∃ line ∈ text.lines, Rule.ofLine line = .ok (some (.pattern action rule)) := by
  have holds := holds_of_list text
  have listed : ((ofList text).set.rulesOf action).toList =
      (Rule.ofList text).filterMap (Rule.patternOf? action) := by
    cases action with
    | allow => exact holds.allowRules
    | block => exact holds.blockRules
  rw [← Array.mem_toList_iff, listed, List.mem_filterMap] at member
  obtain ⟨made, among, found⟩ := member
  obtain ⟨line, onLine, read⟩ := (Rule.mem_of_list text made).mp among
  obtain rfl := (Rule.pattern_eq_some action made rule).mp found
  exact ⟨line, onLine, read⟩

theorem judge_rooted (text : Text) (enabled : Bool) (r : Request) (some_site : r.site ≠ [])
    (blind : ∀ line ∈ text.lines, ¬ Rule.TellsApart r line) :
    (ofList text).set.judge enabled r.onRooted = (ofList text).set.judge enabled r := by
  apply judge_congr
  · rfl
  · rfl
  · intro action
    rfl
  · intro action rule member
    obtain ⟨line, onLine, read⟩ := mem_rules_of_list text action rule member
    have none_apart := blind line onLine
    apply Rule.accepts_rooted line action rule read
    · intro asks
      rw [r.party_rooted_iff some_site]
      by_contra here
      exact none_apart ⟨action, rule, read, .inl ⟨asks, here⟩⟩
    · exact fun listed => none_apart ⟨action, rule, read, .inr listed⟩

end RuleSet

namespace LiveFilter

def withList (f : LiveFilter) (text : Text) : LiveFilter :=
  { f with active := (RuleSet.ofList text).set }

variable (f : LiveFilter)

theorem selectors_rooted_iff (host : Text) :
    f.selectorsFor (Host.rooted host) = f.selectorsFor host ↔
      (f.settings.enabled = true → f.settings.hidesElements = true →
        f.active.selectorsFor host ≠ [] →
          f.settings.isTrusted (Host.rooted host) = f.settings.isTrusted host) := by
  have selectors : f.active.selectorsFor (Host.rooted host) = f.active.selectorsFor host :=
    f.active.hidden.selectors_for_rooted host
  rw [selectorsFor, selectorsFor, hidesOn, hidesOn, selectors]
  cases f.settings.enabled with
  | false => simp
  | true =>
      cases f.settings.hidesElements with
      | false => simp
      | true =>
          cases f.settings.isTrusted (Host.rooted host) <;>
            cases f.settings.isTrusted host <;> simp [@eq_comm _ []]

/-- Filtering is on, and it is the rules that a request to this URL is up to. -/
def IsUpForFiltering (url referer : Text) : Prop :=
  f.settings.enabled = true ∧
    (Request.of url [] referer f.settings.exemptReferers).isFiltered = true ∧
      (Request.of url [] referer f.settings.exemptReferers).isExempt = false

theorem should_block_iff (text url site referer : Text) :
    (f.withList text).shouldBlock url site referer = true ↔
      f.settings.isTrusted site = false ∧ f.IsUpForFiltering url referer ∧
        ((RuleSet.ofList text).set.judge true
          (.of url site referer f.settings.exemptReferers)).isBlocked = true := by
  have filtered : (Request.of url [] referer f.settings.exemptReferers).isFiltered =
    (Request.of url site referer f.settings.exemptReferers).isFiltered := rfl
  have exempt : (Request.of url [] referer f.settings.exemptReferers).isExempt =
    (Request.of url site referer f.settings.exemptReferers).isExempt := rfl
  rw [shouldBlock, IsUpForFiltering, filtered, exempt]
  change (!f.settings.isTrusted site && ((RuleSet.ofList text).set.judge f.settings.enabled
    (.of url site referer f.settings.exemptReferers)).isBlocked) = true ↔ _
  rw [RuleSet.judge_is_blocked, RuleSet.judge_is_blocked]
  simp only [Bool.and_eq_true, Bool.not_eq_true', Bool.true_and]
  tauto

/-- A list whose only filter matches everything blocks what the option of the filter lets it. -/
theorem everything_blocked_iff (option : Text) (isPlain : Options.IsPlain option)
    (known : Options.namesResource option = false) (url site referer : Text) :
    (f.withList (Options.everythingWith option)).shouldBlock url site referer = true ↔
      f.settings.isTrusted site = false ∧ f.IsUpForFiltering url referer ∧
        Options.AllowsParty [option] (Request.of url site referer f.settings.exemptReferers).party ∧
          Options.AllowsHost Host.IsWithin [option] site.asciiLower := by
  have single : '\n' ∉ Options.everythingWith option := by
    simp [Options.everythingWith, Options.withOptions, joinWith, isPlain.noLineFeed]
  obtain ⟨rule, read, accepts⟩ := Options.of_line_everything option isPlain known
  have accepted := accepts (.of url site referer f.settings.exemptReferers)
  rw [should_block_iff, RuleSet.blocked_by_line _ single rule read]
  refine and_congr_right fun _ => and_congr_right fun up => ?_
  obtain ⟨-, filtered, exempt⟩ := up
  change (Request.of url site referer f.settings.exemptReferers).isFiltered = true at filtered
  change (Request.of url site referer f.settings.exemptReferers).isExempt = false at exempt
  rw [filtered, exempt]
  exact accepted

section request

variable (url host referer : Text)

section alike

variable (alike : ∀ text, (f.withList text).shouldBlock url (Host.rooted host) referer =
    (f.withList text).shouldBlock url host referer) (up : f.IsUpForFiltering url referer)

include alike up

theorem option_asks_alike (option : Text) (isPlain : Options.IsPlain option)
    (known : Options.namesResource option = false) :
    f.settings.isTrusted (Host.rooted host) = false ∧
        Options.AllowsParty [option]
          (Request.of url (Host.rooted host) referer f.settings.exemptReferers).party ∧
          Options.AllowsHost Host.IsWithin [option] (Host.rooted host).asciiLower ↔
      f.settings.isTrusted host = false ∧
        Options.AllowsParty [option]
          (Request.of url host referer f.settings.exemptReferers).party ∧
          Options.AllowsHost Host.IsWithin [option] host.asciiLower := by
  have same := Bool.eq_iff_iff.mp (alike (Options.everythingWith option))
  rw [f.everything_blocked_iff option isPlain known,
    f.everything_blocked_iff option isPlain known] at same
  simpa only [up, true_and] using same

theorem trusted_alike :
    f.settings.isTrusted (Host.rooted host) = f.settings.isTrusted host := by
  have same := f.option_asks_alike url host referer alike up [] ⟨by simp, by simp, by simp, by simp⟩
    (by decide)
  simp only [Options.allows_party_unnamed [] _ (by decide),
    Options.allows_host_unlisted [] _ (by decide), and_true] at same
  cases trusted : f.settings.isTrusted host with
  | true => simpa [trusted] using same
  | false => exact same.mpr trusted

variable (untrusted : f.settings.isTrusted host = false)

include untrusted

theorem party_alike :
    (Request.of url (Host.rooted host) referer f.settings.exemptReferers).party =
      (Request.of url host referer f.settings.exemptReferers).party := by
  have trust := (f.trusted_alike url host referer alike up).trans untrusted
  have same := f.option_asks_alike url host referer alike up "third-party".toList
    ⟨by decide, by decide, by decide, by decide⟩ (by decide)
  simp only [trust, untrusted, true_and, Options.allows_party_third,
    Options.allows_host_unlisted _ _ (by decide : Options.tokens ["third-party".toList] = []),
    and_true] at same
  exact (Party.eq_iff .third _ _).mpr same

theorem domains_alike (domain : Text) (canonical : Host.normalize? domain = some domain) :
    ¬ Host.IsWithin host.asciiLower domain := by
  intro within
  have trust := (f.trusted_alike url host referer alike up).trans untrusted
  have named := Options.name_on_domain domain canonical
  have same := f.option_asks_alike url host referer alike up (Options.onDomain domain)
    (Options.plain_on_domain domain canonical) (by rw [Options.namesResource, named]; rfl)
  simp only [trust, untrusted, true_and, Options.allows_on_domain domain canonical,
    Options.allows_party_unnamed _ _ (by rw [Options.party?, named]; rfl)] at same
  rw [Host.rooted_lower] at same
  exact Host.not_within_rooted _ domain canonical (same.mpr within)

end alike

variable (some_host : host ≠ [])

include some_host

theorem blocked_rooted (text : Text)
    (trust : f.settings.isTrusted (Host.rooted host) = f.settings.isTrusted host)
    (blind : ∀ line ∈ text.lines,
      ¬ Rule.TellsApart (.of url host referer f.settings.exemptReferers) line) :
    (f.withList text).shouldBlock url (Host.rooted host) referer =
      (f.withList text).shouldBlock url host referer := by
  have judged := RuleSet.judge_rooted text true
    (.of url host referer f.settings.exemptReferers) some_host blind
  rw [Bool.eq_iff_iff, should_block_iff, should_block_iff, trust, ← judged]
  rfl

/-- A root dot makes no difference to what is blocked, whatever the lists have in them, just where
the page is trusted with the dot as well as without it or where nothing that is up to the rules
depends on the page. -/
theorem blocked_rooted_iff :
    (∀ text, (f.withList text).shouldBlock url (Host.rooted host) referer =
        (f.withList text).shouldBlock url host referer) ↔
      (f.IsUpForFiltering url referer →
        f.settings.isTrusted host = true ∧ f.settings.isTrusted (Host.rooted host) = true ∨
        f.settings.isTrusted host = false ∧ f.settings.isTrusted (Host.rooted host) = false ∧
          (Request.of url host referer f.settings.exemptReferers).GoesElsewhere ∧
            ∀ domain, Host.normalize? domain = some domain →
              ¬ Host.IsWithin host.asciiLower domain) := by
  constructor
  · intro alike up
    rw [f.trusted_alike url host referer alike up]
    cases untrusted : f.settings.isTrusted host with
    | true => exact .inl ⟨rfl, rfl⟩
    | false =>
        have party := f.party_alike url host referer alike up untrusted
        refine .inr ⟨rfl, rfl, ?_, f.domains_alike url host referer alike up untrusted⟩
        exact (Request.party_rooted_iff _ some_host).mp party
  · intro agree text
    by_cases up : f.IsUpForFiltering url referer
    · rcases agree up with ⟨trusted, trustedRooted⟩ | ⟨untrusted, untrustedRooted, elsewhere, apart⟩
      · rw [Bool.eq_iff_iff, should_block_iff, should_block_iff, trusted, trustedRooted]
        simp
      · have trust := untrustedRooted.trans untrusted.symm
        apply f.blocked_rooted url host referer some_host text trust
        intro line _ tells
        obtain ⟨action, rule, read, party | ⟨domain, listed, within⟩⟩ := tells
        · exact party.2 elsewhere
        · exact apart domain (Options.listed_canonical _ domain listed) within
    · rw [Bool.eq_iff_iff, should_block_iff, should_block_iff]
      exact iff_of_false (fun blocked => up blocked.2.1) (fun blocked => up blocked.2.1)

/-- What the dot of the root at the end of a page's host comes to. The page is trusted only where a
trusted host is written with the dot; the same is hidden as long as the trust is the same; and the
same is blocked as long as, besides, no line asks for the party or for a domain of the host. Apart
from requests that the rules have no say on, all lists block alike only if both pages are trusted,
or neither is and the rules can tell nothing of the page. -/
theorem root_dot_matters_iff :
    (f.settings.isTrusted (Host.rooted host) = true ↔
      ∃ trusted ∈ f.settings.trustedHosts, ∃ domain,
        trusted.asciiLower = Host.rooted domain ∧ Host.IsUnder host.asciiLower domain) ∧
    (f.selectorsFor (Host.rooted host) = f.selectorsFor host ↔
      (f.settings.enabled = true → f.settings.hidesElements = true →
        f.active.selectorsFor host ≠ [] →
          f.settings.isTrusted (Host.rooted host) = f.settings.isTrusted host)) ∧
    (∀ text, f.settings.isTrusted (Host.rooted host) = f.settings.isTrusted host →
      (∀ line ∈ text.lines,
        ¬ Rule.TellsApart (.of url host referer f.settings.exemptReferers) line) →
        (f.withList text).shouldBlock url (Host.rooted host) referer =
          (f.withList text).shouldBlock url host referer) ∧
    ((∀ text, (f.withList text).shouldBlock url (Host.rooted host) referer =
        (f.withList text).shouldBlock url host referer) ↔
      (f.IsUpForFiltering url referer →
        f.settings.isTrusted host = true ∧ f.settings.isTrusted (Host.rooted host) = true ∨
        f.settings.isTrusted host = false ∧ f.settings.isTrusted (Host.rooted host) = false ∧
          (Request.of url host referer f.settings.exemptReferers).GoesElsewhere ∧
            ∀ domain, Host.normalize? domain = some domain →
              ¬ Host.IsWithin host.asciiLower domain)) :=
  ⟨f.settings.is_trusted_rooted host, f.selectors_rooted_iff host,
    f.blocked_rooted url host referer some_host, f.blocked_rooted_iff url host referer some_host⟩

end request

def oneTrusted : LiveFilter where
  settings := { trustedHosts := ["example.com".toList] }
  active := (RuleSet.ofList "||ads.example^\n##.ad".toList).set

/-- With the dot the site is trusted no longer, and more is hidden and blocked there. A site that
never was trusted has lists too that block other requests with the dot than without it. -/
theorem trust_lost_with_root_dot :
    oneTrusted.settings.isTrusted "example.com".toList = true ∧
      oneTrusted.settings.isTrusted "example.com.".toList = false ∧
      oneTrusted.selectorsFor "example.com.".toList ≠ oneTrusted.selectorsFor "example.com".toList ∧
      (∃ text, (oneTrusted.withList text).shouldBlock "http://ads.example/".toList
          "example.com.".toList [] ≠
        (oneTrusted.withList text).shouldBlock "http://ads.example/".toList
          "example.com".toList []) ∧
      ∃ text, (oneTrusted.withList text).shouldBlock "http://site.example/".toList
          "site.example.".toList [] ≠
        (oneTrusted.withList text).shouldBlock "http://site.example/".toList
          "site.example".toList [] := by
  have trusted : oneTrusted.settings.isTrusted "example.com".toList = true := by decide
  have untrusted : oneTrusted.settings.isTrusted "example.com.".toList = false := by decide
  obtain ⟨-, hidden, -, blocked⟩ := oneTrusted.root_dot_matters_iff "http://ads.example/".toList
    "example.com".toList [] (by decide)
  obtain ⟨-, -, -, elsewhere⟩ := oneTrusted.root_dot_matters_iff "http://site.example/".toList
    "site.example".toList [] (by decide)
  refine ⟨trusted, untrusted, ?_, ?_, ?_⟩
  · intro same
    have trust := hidden.mp same rfl rfl (by decide)
    exact absurd trust (by decide)
  · by_contra alike
    push Not at alike
    rcases blocked.mp alike ⟨rfl, by decide, by decide⟩ with both | neither
    · exact absurd both.2 (by decide)
    · exact absurd neither.1 (by decide)
  · by_contra alike
    push Not at alike
    rcases elsewhere.mp alike ⟨rfl, by decide, by decide⟩ with both | neither
    · exact absurd both.1 (by decide)
    · obtain ⟨-, -, -, apart⟩ := neither
      exact apart "site.example".toList (by decide) (by decide)

end LiveFilter

end ContentFilter
