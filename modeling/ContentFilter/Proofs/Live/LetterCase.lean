import ContentFilter.Live.Filter
import ContentFilter.Proofs.Rule.Expressions
import ContentFilter.Proofs.Url.Parts
import ContentFilter.Proofs.Verdict.Blocking

namespace ContentFilter

section hosts

variable (host : Text)

theorem Host.lookup_form_lower : lookupForm host.asciiLower = lookupForm host := by
  rw [lookupForm, lookupForm, Text.ascii_lower_again]

theorem Host.Registry.covers_lower (registry : Registry) :
    registry.covers host.asciiLower = registry.covers host := by
  rw [covers, covers, Text.ascii_lower_is_empty, lookup_form_lower]

theorem Sites.allows_lower (sites : Sites) : sites.allows host.asciiLower = sites.allows host := by
  rw [allows, allows, Text.ascii_lower_again]

theorem Settings.is_trusted_lower (settings : Settings) :
    settings.isTrusted host.asciiLower = settings.isTrusted host := by
  rw [isTrusted, isTrusted, Text.ascii_lower_again]

theorem HidingStore.selectors_for_lower (h : HidingStore) :
    h.selectorsFor host.asciiLower = h.selectorsFor host := by
  rw [selectorsFor, selectorsFor, Host.lookup_form_lower]

end hosts

namespace Request

def inSmallLetters (r : Request) : Request :=
  of r.url.asciiLower r.site.asciiLower r.referer r.exemptReferers

variable (r : Request)

theorem small_is_filtered : r.inSmallLetters.isFiltered = r.isFiltered := by
  rw [isFiltered, isFiltered, scheme?, scheme?, inSmallLetters, of, Url.scheme_lower]

theorem small_host : r.inSmallLetters.host = r.host.asciiLower := by
  rw [host, host, inSmallLetters, of, Url.host_lower]
  cases Url.host? r.url <;> rfl

theorem small_lower_url : r.inSmallLetters.lowerUrl = r.lowerUrl := by
  rw [r.lowerUrl_eq]
  exact Text.lower_ascii_lower r.url

theorem small_party : r.inSmallLetters.party = r.party := by
  have site : r.inSmallLetters.site = r.site.asciiLower := rfl
  have same : r.host.asciiLower.equalIgnoringCase r.site.asciiLower =
      r.host.equalIgnoringCase r.site := by
    simp only [Text.equalIgnoringCase, Text.ascii_lower_again]
  rw [party, party, small_host, site, Text.ascii_lower_is_empty, Text.ascii_lower_is_empty, same]

end Request

theorem PatternFilter.accepts_small (filter : PatternFilter) (r : Request) :
    filter.accepts r.inSmallLetters = filter.accepts r := by
  have site (sites : Sites) : sites.allows r.inSmallLetters.site = sites.allows r.site :=
    sites.allows_lower r.site
  simp only [accepts, site, r.small_lower_url]

theorem PatternRule.accepts_small (rule : PatternRule) (r : Request) :
    rule.accepts r.inSmallLetters = rule.accepts r := by
  cases rule with
  | standard filter => exact filter.accepts_small r
  | party filter parties => rw [accepts, accepts, r.small_party, filter.accepts_small]
  | null source => rfl

theorem RuleSet.judge_small (s : RuleSet) (enabled : Bool) (r : Request) :
    s.judge enabled r.inSmallLetters = s.judge enabled r := by
  apply s.judge_congr
  · exact r.small_is_filtered
  · rfl
  · intro action
    rw [r.small_host, Host.Registry.covers_lower]
  · intro action rule _
    exact rule.accepts_small r

namespace LiveFilter

/-- Two requests whose URLs and pages differ in the case of ASCII letters only get one verdict, from
the same rule, under all rules and settings, and the same is hidden on both pages. -/
theorem letter_case_decides_nothing (f : LiveFilter) (url url' site site' referer : Text)
    (urls : url.equalIgnoringCase url' = true) (sites : site.equalIgnoringCase site' = true) :
    (∀ enabled exemptReferers,
      f.active.judge enabled (.of url site referer exemptReferers) =
        f.active.judge enabled (.of url' site' referer exemptReferers)) ∧
      f.shouldBlock url site referer = f.shouldBlock url' site' referer ∧
      f.active.selectorsFor site = f.active.selectorsFor site' ∧
      f.selectorsFor site = f.selectorsFor site' := by
  rw [Text.equalIgnoringCase, beq_iff_eq] at urls sites
  have verdict (enabled : Bool) (exemptReferers : List Text) :
      f.active.judge enabled (.of url site referer exemptReferers) =
        f.active.judge enabled (.of url' site' referer exemptReferers) := by
    have same : (Request.of url site referer exemptReferers).inSmallLetters =
        (Request.of url' site' referer exemptReferers).inSmallLetters := by
      change Request.of url.asciiLower site.asciiLower referer exemptReferers =
        Request.of url'.asciiLower site'.asciiLower referer exemptReferers
      rw [urls, sites]
    rw [← RuleSet.judge_small, same, RuleSet.judge_small]
  have trusted : f.settings.isTrusted site = f.settings.isTrusted site' := by
    rw [← Settings.is_trusted_lower, sites, Settings.is_trusted_lower]
  have selectors : f.active.selectorsFor site = f.active.selectorsFor site' := by
    rw [RuleSet.selectorsFor, RuleSet.selectorsFor, ← HidingStore.selectors_for_lower, sites,
      HidingStore.selectors_for_lower]
  refine ⟨verdict, ?_, selectors, ?_⟩
  · rw [shouldBlock, shouldBlock, trusted, verdict]
  · rw [selectorsFor, selectorsFor, hidesOn, hidesOn, trusted, selectors]

def blockUnlessTrusted : LiveFilter where
  settings := { trustedHosts := ["my.news.example".toList] }
  active := (RuleSet.ofList "||ads.example^$third-party\nnews.example##.promo".toList).set

def thirdPartyAds : PatternRule :=
  .party ⟨"||ads.example^$third-party".toList, ⟨(Wildcard.ofText "||ads.example^".toList).regex⟩,
    none⟩ ⟨false, true⟩

def adsAndPromo : List Rule :=
  [.pattern .block thirdPartyAds, .hide (.perDomain ".promo".toList ["news.example".toList] [])]

theorem ads_and_promo_read :
    ["||ads.example^$third-party".toList, "news.example##.promo".toList].filterMap Rule.inLine? =
      adsAndPromo := by
  have whole : Text.trim "||ads.example^$third-party".toList =
      "||ads.example^$third-party".toList := by decide
  have parted : Options.split "||ads.example^$third-party".toList =
      ("||ads.example^".toList, { parties := some ⟨false, true⟩ }) := by decide
  have ads := Rule.of_line_block "||ads.example^$third-party".toList (by decide) (by decide)
    (by decide) (by decide) (by decide)
  rw [whole, PatternRule.of_filter_split _ _ _ _ parted (by decide),
    Pattern.compile_small "||ads.example^".toList rfl (by decide)] at ads
  have first : Rule.inLine? "||ads.example^$third-party".toList =
      some (.pattern .block thirdPartyAds) := Rule.in_line_of_read _ _ ads
  have second : Rule.inLine? "news.example##.promo".toList =
      some (.hide (.perDomain ".promo".toList ["news.example".toList] [])) :=
    Rule.in_line_of_read _ _ (by decide)
  rw [List.filterMap_cons_some first, List.filterMap_cons_some second]
  rfl

theorem block_unless_trusted_active :
    blockUnlessTrusted.active = adsAndPromo.foldl RuleSet.insert {} := by
  have lines : Text.lines "||ads.example^$third-party\nnews.example##.promo".toList =
      ["||ads.example^$third-party".toList, "news.example##.promo".toList] := by decide
  rw [blockUnlessTrusted, RuleSet.ofList, Builder.addText, lines, Builder.add_lines_set,
    ads_and_promo_read]

/-- Capitals in the URL, among them a sigma at the end of a word, and in the host of the page. -/
theorem capitals_are_blocked :
    blockUnlessTrusted.shouldBlock "HTTP://Img.ADS.Example/ΑΣ.GIF".toList "News.Example".toList [] =
        true ∧
      ".promo".toList ∈ blockUnlessTrusted.selectorsFor "News.Example".toList := by
  obtain ⟨-, blocks, -, hides⟩ := letter_case_decides_nothing blockUnlessTrusted
    "HTTP://Img.ADS.Example/ΑΣ.GIF".toList "http://img.ads.example/ΑΣ.gif".toList
    "News.Example".toList "news.example".toList [] (by decide) (by decide)
  have known : blockUnlessTrusted =
      { blockUnlessTrusted with active := adsAndPromo.foldl RuleSet.insert {} } :=
    congrArg (fun active => { blockUnlessTrusted with active }) block_unless_trusted_active
  rw [blocks, hides, known]
  decide +kernel

end LiveFilter

end ContentFilter
