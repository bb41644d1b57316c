import ContentFilter.Proofs.Rule.Expressions
import ContentFilter.Proofs.Rule.Options

namespace ContentFilter

open Text

namespace Host

theorem of_filter_dollar (filter : Text) (dollar : '$' ∈ filter.trim)
    (noException : ¬ ['@', '@'] <+: filter.trim) : ofFilter? filter = none := by
  have unmarked : stripPrefix? filter.trim ['@', '@'] = none := by
    rw [stripPrefix?, if_neg]
    rwa [List.isPrefixOf_iff_prefix]
  have found : filter.trim.contains '$' = true := List.contains_iff_mem.mpr dollar
  rw [ofFilter?]
  simp only [unmarked, Option.getD_none, found, if_true]

end Host

namespace Options

def writtenIn (filter : Text) : List Text :=
  match filter.splitLast '$' with
  | some (_ :: _, options) => options.splitAll ','
  | _ => []

theorem split_written (filter : Text) : (split filter).2 = (writtenIn filter).foldl add {} := by
  rw [split, writtenIn]
  cases filter.splitLast '$' with
  | none => rfl
  | some cut =>
      obtain ⟨pattern, options⟩ := cut
      cases pattern <;> rfl

theorem add_trim (o : Options) (option : Text) : o.add option.trim = o.add option := by
  rw [add, add, trim_trim]

theorem of_text_drop_end (s : Text) : ofText (s.dropEndWhile isBlank) = ofText s := by
  rw [ofText, ← fold_trim add add_trim, split_all_drop_end ',' (by decide),
    fold_trim add add_trim, ofText]

def withOptions (pattern : Text) (options : List Text) : Text :=
  pattern ++ '$' :: joinWith [','] options

theorem of_text_join (options : List Text) (plain : ∀ o ∈ options, ',' ∉ o) :
    ofText (joinWith [','] options) = options.foldl add {} := by
  cases options with
  | nil => rfl
  | cons option options =>
      rw [ofText, split_all_join ',' _ (List.cons_ne_nil option options) plain]

section withOptions

variable (pattern : Text) (options : List Text)
  (begun : ∀ c ∈ pattern.head?, isBlank c = false)

include begun

theorem trim_with_options (some_pattern : pattern ≠ []) :
    trim (withOptions pattern options) =
      pattern ++ '$' :: (joinWith [','] options).dropEndWhile isBlank := by
  rw [trim_begun, withOptions, drop_end_while_append isBlank _ _ '$' (by decide)]
  intro c head
  rw [withOptions, List.head?_append_of_ne_nil pattern some_pattern] at head
  exact begun c head

theorem split_with_options (some_pattern : pattern ≠ [])
    (plain : ∀ o ∈ options, '$' ∉ o ∧ ',' ∉ o) :
    split (trim (withOptions pattern options)) = (pattern, options.foldl add {}) := by
  have last : '$' ∉ (joinWith [','] options).dropEndWhile isBlank := by
    intro member
    have among := (drop_end_while_front isBlank _).subset member
    exact not_mem_join ',' '$' (by decide) options (fun o listed => (plain o listed).1) among
  rw [trim_with_options pattern options begun some_pattern]
  obtain ⟨c, rest, rfl⟩ := List.exists_cons_of_ne_nil some_pattern
  rw [split_dollar c rest _ last, of_text_drop_end,
    of_text_join options fun o listed => (plain o listed).2]

end withOptions

end Options

namespace PatternRule

def unrestricted : PatternRule → PatternRule
  | standard filter => standard { filter with sites := none }
  | party filter parties => party { filter with sites := none } parties
  | null source => null source

theorem accepts_restricted (filter : PatternFilter) (q : Request) :
    filter.accepts q = true ↔
      { filter with sites := none : PatternFilter }.accepts q = true ∧
        filter.sites.all (·.allows q.site) = true := by
  simp only [PatternFilter.accepts, Option.all_none, Bool.true_and, Bool.and_eq_true]
  exact and_comm

theorem of_filter_accepts (filter line : Text) (rule : PatternRule)
    (made : ofFilter filter line = .ok rule) :
    rule.source = filter ∧ ∀ q : Request, rule.accepts q = true ↔
      rule.unrestricted.accepts q = true ∧
        Options.AllowsHost Host.IsWithin (Options.writtenIn filter) q.site.asciiLower := by
  simp only [← Options.allows_host_iff, ← Options.split_written]
  rcases cut : Options.split filter with ⟨pattern, options⟩
  rw [ofFilter, cut] at made
  dsimp only at made ⊢
  split at made
  · obtain rfl := Except.ok.inj made
    exact ⟨rfl, fun q => by simp [accepts, unrestricted]⟩
  · split at made
    · cases made
    · split at made
      · obtain rfl := Except.ok.inj made
        refine ⟨rfl, fun q => ?_⟩
        rw [unrestricted, accepts, accepts, Bool.and_eq_true, Bool.and_eq_true, accepts_restricted,
          and_assoc]
      · obtain rfl := Except.ok.inj made
        exact ⟨rfl, fun q => accepts_restricted _ q⟩

theorem of_filter_null_iff (filter line : Text) :
    (∃ source, ofFilter filter line = .ok (.null source)) ↔
      (Options.split filter).2.resource = true ∧ (Options.split filter).2.parties = none := by
  rcases cut : Options.split filter with ⟨pattern, options⟩
  rw [ofFilter, cut]
  dsimp only
  split
  · rename_i unknown
    rw [Bool.and_eq_true, Option.isNone_iff_eq_none] at unknown
    exact iff_of_true ⟨filter, rfl⟩ unknown
  · rename_i judged
    rw [Bool.and_eq_true, Option.isNone_iff_eq_none] at judged
    refine iff_of_false ?_ judged
    cases Pattern.compile pattern with
    | error error => simp
    | ok compiled => cases options.parties <;> simp

end PatternRule

namespace Rule

open Options

theorem of_line_pattern (line : Text) (action : Action) (rule : PatternRule)
    (found : ofLine line = .ok (some (.pattern action rule))) :
    PatternRule.ofFilter (filterIn line) line.trim = .ok rule := by
  rcases of_line_cases line _ found with ⟨_, _, _, _, -, same⟩ | made
  · cases same
  · rcases of_filter_cases _ _ _ _ made with ⟨_, _, same⟩ | ⟨other, built, same⟩
    · cases same
    · rw [built, (Rule.pattern.inj same).2]

/-- Where some domain that a rule is for can be used, the rule is for hosts under one of them. Where
none can be used the rule is not restricted to any of them: it is for every host that is within none
of the domains that are excepted. -/
theorem listed_domains_restrict (line : Text) (action : Action) (rule : PatternRule)
    (found : ofLine line = .ok (some (.pattern action rule))) :
    rule.source = filterIn line ∧
      ((∃ token ∈ tokens (writtenIn (filterIn line)),
          Sites.IsNaming token ∧ (Host.normalize? token).isSome = true) →
        ∀ q : Request, rule.accepts q = true →
          ∃ token ∈ tokens (writtenIn (filterIn line)),
            Sites.IsNaming token ∧ Host.normalize? token = some (Host.bare token) ∧
              Host.IsUnder q.site.asciiLower (Host.bare token)) ∧
      ((∀ token ∈ tokens (writtenIn (filterIn line)),
          Sites.IsNaming token → Host.normalize? token = none) →
        ∀ q : Request, rule.accepts q = true ↔
          rule.unrestricted.accepts q = true ∧
            ∀ domain, Excepts (writtenIn (filterIn line)) domain →
              ¬ Host.IsWithin q.site.asciiLower domain) := by
  have made := of_line_pattern line action rule found
  obtain ⟨source, accepts⟩ := PatternRule.of_filter_accepts _ _ rule made
  refine ⟨source, ?_, ?_⟩
  · intro some_usable q accepted
    obtain ⟨usable, member, naming, some_domain⟩ := some_usable
    obtain ⟨first, normal⟩ := Option.isSome_iff_exists.mp some_domain
    obtain ⟨-, allowed, -⟩ := (accepts q).mp accepted
    have named := (Sites.named_eq_some_iff usable first).mpr ⟨naming, normal⟩
    obtain ⟨domain, ⟨token, listed, names⟩, within⟩ := allowed ⟨first, usable, member, named⟩
    obtain ⟨isNaming, canonical⟩ := (Sites.named_eq_some_iff token domain).mp names
    refine ⟨token, listed, isNaming, ?_⟩
    rw [← Host.normalize_eq_bare token domain canonical]
    exact ⟨canonical, Host.is_under_of_within _ domain within⟩
  · intro unusable q
    have none_named : ¬ ∃ domain, Names (writtenIn (filterIn line)) domain := by
      intro some_named
      obtain ⟨domain, token, listed, names⟩ := some_named
      obtain ⟨isNaming, canonical⟩ := (Sites.named_eq_some_iff token domain).mp names
      cases canonical.symm.trans (unusable token listed isNaming)
    rw [accepts, AllowsHost]
    exact and_congr_right' (and_iff_right fun named => absurd named none_named)

theorem is_comment_iff (line : Text) :
    isComment line = true ↔ line.head? = some '!' ∨ line.head? = some '[' := by
  fun_cases isComment line
  case case1 => simp
  case case2 => simp
  case case3 exclamation bracket =>
    refine iff_of_false Bool.false_ne_true ?_
    simp only [List.head?_eq_some_iff]
    intro head
    rcases head with ⟨rest, same⟩ | ⟨rest, same⟩
    · exact exclamation rest same
    · exact bracket rest same

/-- One domain that can be used keeps an exception from all other sites. Where the only domain has a
letter that no domain has, the rule is for every site. -/
theorem spoilt_domain_restricts_nothing :
    (∃ rule, ofLine "@@/ads.js$domain=good.example|bücher.example".toList =
        .ok (some (.pattern .allow rule)) ∧
      ∀ q : Request, rule.accepts q = true →
        Host.IsUnder q.site.asciiLower "good.example".toList) ∧
      ∃ rule, ofLine "/ads.js$domain=münchen.example".toList =
          .ok (some (.pattern .block rule)) ∧
        rule.accepts (.of "http://a.example/ads.js".toList "other.example".toList [] []) = true ∧
        ∀ q : Request, rule.unrestricted.accepts q = true → rule.accepts q = true := by
  have marked := of_line_marked "/ads.js$domain=good.example|bücher.example".toList
    (trimmed_of_trim_eq _ (by decide)) (by decide)
  have exempts := reads_as_split .allow _ _
    (marked.trans (of_filter_no_host .allow _ _ (by decide)))
  have line : '@' :: '@' :: "/ads.js$domain=good.example|bücher.example".toList =
      "@@/ads.js$domain=good.example|bücher.example".toList := by decide
  rw [line] at exempts
  have blocks := reads_as_split .block _ _
    (of_line_block "/ads.js$domain=münchen.example".toList (by decide) (by decide) (by decide)
      (by decide) (by decide))
  have compiles := Pattern.compile_small "/ads.js".toList rfl (by decide)
  obtain ⟨exception, made, -⟩ := exempts.compiled (by decide) _ compiles
  obtain ⟨rule, found, -, -, accepts⟩ := blocks.compiled (by decide) _ compiles
  have accepted : rule.accepts
      (.of "http://a.example/ads.js".toList "other.example".toList [] []) = true :=
    (accepts _).mpr ⟨by decide, by decide, (Regex.occurs_in_iff _ _).mp (by decide +kernel)⟩
  obtain ⟨-, kept, -⟩ := listed_domains_restrict _ _ exception made
  obtain ⟨-, -, free⟩ := listed_domains_restrict _ _ rule found
  refine ⟨⟨exception, made, ?_⟩, rule, found, accepted, ?_⟩
  · intro q exempt
    obtain ⟨token, listed, -, usable, under⟩ :=
      kept ⟨"good.example".toList, by decide, by decide, by decide⟩ q exempt
    have read :
        tokens (writtenIn (filterIn "@@/ads.js$domain=good.example|bücher.example".toList)) =
          ["good.example".toList, "bücher.example".toList] := by decide
    rw [read] at listed
    rcases List.mem_pair.mp listed with rfl | rfl
    · exact under
    · exact absurd usable (by decide)
  · intro q unrestricted
    rw [free (by decide)]
    refine ⟨unrestricted, ?_⟩
    intro domain named
    obtain ⟨token, listed, excepted⟩ := named
    have read : tokens (writtenIn (filterIn "/ads.js$domain=münchen.example".toList)) =
        ["münchen.example".toList] := by decide
    rw [read, List.mem_singleton] at listed
    rw [listed] at excepted
    cases excepted

theorem of_line_with_options (pattern : Text) (options : List Text) (some_pattern : pattern ≠ [])
    (begun : ∀ c ∈ pattern.head?, isBlank c = false)
    (noComment : isComment (withOptions pattern options) = false)
    (noException : ¬ ['@', '@'] <+: withOptions pattern options)
    (noHiding : ¬ hidingMark <:+: withOptions pattern options)
    (noHidingException : ¬ exceptionMark <:+: withOptions pattern options) :
    ofLine (withOptions pattern options) =
      (PatternRule.ofFilter (trim (withOptions pattern options))
        (trim (withOptions pattern options))).map fun rule => some (.pattern .block rule) := by
  have whole := trim_with_options pattern options begun some_pattern
  have front : trim (withOptions pattern options) <+: withOptions pattern options := by
    rw [whole, withOptions]
    refine (List.prefix_append_right_inj pattern).mpr ((List.prefix_cons_inj '$').mpr ?_)
    exact drop_end_while_front isBlank _
  have unmarked : ¬ ['@', '@'] <+: trim (withOptions pattern options) :=
    fun mark => noException (mark.trans front)
  have begin_alike : (trim (withOptions pattern options)).head? =
      (withOptions pattern options).head? := by
    rw [whole, withOptions, List.head?_append_of_ne_nil pattern some_pattern,
      List.head?_append_of_ne_nil pattern some_pattern]
  apply of_line_block
  · rw [Bool.or_eq_true, is_comment_iff, begin_alike, ← is_comment_iff, noComment, whole]
    simp
  · exact unmarked
  · exact fun mark => noHiding (mark.trans front.isInfix)
  · exact fun mark => noHidingException (mark.trans front.isInfix)
  · apply Host.of_filter_dollar
    · rw [trim_trim, whole]
      simp
    · rwa [trim_trim]

/-- What the options decide about a filter: whether nothing is known of what it asks for, or else
whether it is rejected and which requests it is for. -/
theorem options_decide (pattern : Text) (options : List Text) (some_pattern : pattern ≠ [])
    (begun : ∀ c ∈ pattern.head?, isBlank c = false) (plain : ∀ o ∈ options, '$' ∉ o ∧ ',' ∉ o)
    (noComment : isComment (withOptions pattern options) = false)
    (noException : ¬ ['@', '@'] <+: withOptions pattern options)
    (noHiding : ¬ hidingMark <:+: withOptions pattern options)
    (noHidingException : ¬ exceptionMark <:+: withOptions pattern options) :
    ((∃ source, ofLine (withOptions pattern options) =
        .ok (some (.pattern .block (.null source)))) ↔ AsksUnknown options) ∧
      (¬ AsksUnknown options →
        ((∃ failure, ofLine (withOptions pattern options) = .error failure) ↔
          ∃ error, Pattern.compile pattern = .error error) ∧
        ∀ compiled, Pattern.compile pattern = .ok compiled →
          ∃ rule, ofLine (withOptions pattern options) = .ok (some (.pattern .block rule)) ∧
            ∀ q : Request, rule.accepts q = true ↔
              compiled.occursIn q.lowerUrl = true ∧ AllowsParty options q.party ∧
                AllowsHost Host.IsWithin options q.site.asciiLower) := by
  have read := of_line_with_options pattern options some_pattern begun noComment noException
    noHiding noHidingException
  have parted := split_with_options pattern options begun some_pattern plain
  have unknown := PatternRule.of_filter_null_iff (trim (withOptions pattern options))
    (trim (withOptions pattern options))
  have reads := reads_as_split .block _ _ ((of_line_trim _).trans read)
  rw [parted] at unknown reads
  rw [← of_line_trim (withOptions pattern options)] at read ⊢
  refine ⟨?_, ?_⟩
  · rw [← asks_unknown_iff, ← unknown, read]
    cases PatternRule.ofFilter (trim (withOptions pattern options))
      (trim (withOptions pattern options)) <;> simp [Except.map]
  · intro known
    have judged : (options.foldl add {}).resource = true → (options.foldl add {}).parties ≠ none :=
      fun resource anyParty => known ((asks_unknown_iff options).mp ⟨resource, anyParty⟩)
    refine ⟨?_, ?_⟩
    · cases built : Pattern.compile pattern with
      | error error => exact iff_of_true ⟨_, reads.rejected judged error built⟩ ⟨error, rfl⟩
      | ok compiled =>
          obtain ⟨rule, made, -⟩ := reads.compiled judged compiled.regex built
          rw [made]
          simp
    · intro compiled built
      obtain ⟨rule, made, -, -, accepts⟩ := reads.compiled judged compiled.regex built
      refine ⟨rule, made, fun q => ?_⟩
      have found : compiled.occursIn q.lowerUrl = true ↔
          Regex.OccursIn compiled.regex q.lowerUrl := Regex.occurs_in_iff compiled.regex q.lowerUrl
      rw [accepts, allows_party_iff, found, ← allows_host_iff, Option.all_eq_true,
        ← and_assoc, and_comm]
      rfl

/-- Options for scripts of the first party on one site. Without the party nothing is known of what
the same line asks for. -/
theorem party_makes_option_known :
    (∃ rule, ofLine "/ad.js$Script, ~Third-Party ,domain=Site.example|~shop.site.example".toList =
        .ok (some (.pattern .block rule)) ∧
      rule.accepts (.of "http://site.example/ad.js".toList "site.example".toList [] []) = true) ∧
      ∃ source, ofLine "/ad.js$Script,domain=Site.example|~shop.site.example".toList =
        .ok (some (.pattern .block (.null source))) := by
  have begun : ∀ c ∈ "/ad.js".toList.head?, isBlank c = false := by
    intro c first
    cases first
    decide
  obtain ⟨-, known⟩ := options_decide "/ad.js".toList ["Script".toList, " ~Third-Party ".toList,
    "domain=Site.example|~shop.site.example".toList] (by decide) begun (by decide +kernel)
    (by decide) (by decide) (by decide +kernel) (by decide +kernel)
  obtain ⟨unknown, -⟩ := options_decide "/ad.js".toList ["Script".toList,
    "domain=Site.example|~shop.site.example".toList] (by decide) begun (by decide +kernel)
    (by decide) (by decide) (by decide +kernel) (by decide +kernel)
  have compiles : ∃ compiled, Pattern.compile "/ad.js".toList = .ok compiled ∧
      compiled.occursIn "http://site.example/ad.js".toList = true :=
    ⟨_, Pattern.compile_small _ rfl (by decide), by decide +kernel⟩
  obtain ⟨compiled, built, occurs⟩ := compiles
  obtain ⟨rule, found, accepts⟩ := (known (by decide)).2 compiled built
  refine ⟨⟨rule, found, ?_⟩, unknown.mpr (by decide)⟩
  rw [accepts, ← allows_host_iff, ← allows_party_iff]
  exact ⟨occurs, by decide, by decide⟩

/-- A domain of one label is for the host of that name only, not for the hosts below it. -/
theorem lone_label_is_no_parent :
    ∃ compiled rule, Pattern.compile "/ads.js".toList = .ok compiled ∧
      ofLine "/ads.js$domain=com".toList = .ok (some (.pattern .block rule)) ∧
      compiled.occursIn "http://example.com/ads.js".toList = true ∧
      AllowsParty ["domain=com".toList] .first ∧
      AllowsHost Host.IsUnder ["domain=com".toList] "example.com".toList ∧
      rule.accepts (.of "http://example.com/ads.js".toList "example.com".toList [] []) = false := by
  have blocks := reads_as_split .block _ _
    (of_line_block "/ads.js$domain=com".toList (by decide) (by decide) (by decide) (by decide)
      (by decide))
  have compiles := Pattern.compile_small "/ads.js".toList rfl (by decide)
  obtain ⟨rule, found, -, -, accepts⟩ := blocks.compiled (by decide) _ compiles
  refine ⟨_, rule, compiles, found, by decide +kernel, ?_, ?_, ?_⟩
  · intro asked given
    cases given
  · refine ⟨fun _ => ⟨"com".toList, ⟨"com".toList, by decide, by decide⟩, by decide⟩, ?_⟩
    intro domain named
    obtain ⟨token, listed, excepted⟩ := named
    have read : tokens ["domain=com".toList] = ["com".toList] := by decide
    rw [read, List.mem_singleton] at listed
    rw [listed] at excepted
    cases excepted
  · rw [Bool.eq_false_iff, Ne, accepts]
    rintro ⟨-, elsewhere, -⟩
    exact absurd (elsewhere _ rfl) (by decide)

end Rule

end ContentFilter
