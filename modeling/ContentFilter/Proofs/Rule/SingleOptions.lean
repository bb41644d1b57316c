import ContentFilter.Proofs.Rule.OptionLines
import ContentFilter.Proofs.Verdict.HostFilters

namespace ContentFilter

open Text

theorem Pattern.star_occurs :
    ∃ compiled, compile ['*'] = .ok compiled ∧ ∀ url, occursIn compiled url = true := by
  have compiled := compile_small ['*'] rfl (by decide)
  refine ⟨_, compiled, ?_⟩
  intro url
  apply (occurs_in_wildcard ['*'] rfl _ compiled url).mpr
  refine ⟨0, 0, Nat.zero_le _, ⟨0, Nat.le_refl 0, ?_, rfl⟩, ?_⟩
  · intro n _ before
    cases before
  · intro atEnd
    cases atEnd

namespace Options

def everythingWith (option : Text) : Text := withOptions ['*'] [option]

/-- The option has no character that means something to the filter or to the list around it. -/
structure IsPlain (option : Text) : Prop where
  noDollar : '$' ∉ option
  noComma : ',' ∉ option
  noHash : '#' ∉ option
  noLineFeed : '\n' ∉ option

theorem of_line_everything (option : Text) (isPlain : IsPlain option)
    (known : namesResource option = false) :
    ∃ rule, Rule.ofLine (everythingWith option) = .ok (some (.pattern .block rule)) ∧
      ∀ q : Request, rule.accepts q = true ↔
        AllowsParty [option] q.party ∧ AllowsHost Host.IsWithin [option] q.site.asciiLower := by
  have begun : ∀ c ∈ ['*'].head?, isBlank c = false := by
    intro c first
    cases first
    decide
  have noMark (mark : Text) (hash : '#' ∈ mark) : ¬ mark <:+: everythingWith option := by
    intro found
    have among := found.subset hash
    simp [everythingWith, withOptions, joinWith, isPlain.noHash] at among
  have read := Rule.of_line_with_options ['*'] [option] (by decide) begun rfl
    (by simp [withOptions]) (noMark _ (by decide)) (noMark _ (by decide))
  have parted := split_with_options ['*'] [option] begun (by decide)
    (by simp [isPlain.noDollar, isPlain.noComma])
  have reads := Rule.reads_as_split .block _ _ ((Rule.of_line_trim _).trans read)
  rw [parted] at reads
  obtain ⟨compiled, built, occurs⟩ := Pattern.star_occurs
  have judged : ([option].foldl add {}).resource = true →
      ([option].foldl add {}).parties ≠ none := by
    rw [(fold_add [option] {}).1]
    simp [known]
  obtain ⟨rule, made, -, -, accepts⟩ := reads.compiled judged compiled.regex built
  refine ⟨rule, (Rule.of_line_trim _).symm.trans made, ?_⟩
  intro q
  have found := (Regex.occurs_in_iff compiled.regex q.lowerUrl).mp (occurs q.lowerUrl)
  rw [accepts, allows_party_iff, ← allows_host_iff, Option.all_eq_true]
  exact and_congr_right fun _ => and_iff_left found

def onDomain (domain : Text) : Text := "domain=".toList ++ domain

section onDomain

variable (domain : Text) (canonical : Host.normalize? domain = some domain)

include canonical

theorem absent_from_domain (c : Char) (noName : Host.isNameChar c = false) : c ∉ domain :=
  Host.absent_from_small_name domain (Host.small_name_of_normalize domain domain canonical) c noName

theorem trimmed_domain : IsTrimmed domain :=
  Host.small_name_trimmed domain (Host.small_name_of_normalize domain domain canonical)

theorem trimmed_before_domain (mark : Text) (trimmed : IsTrimmed mark) (some_mark : mark ≠ []) :
    IsTrimmed (mark ++ domain) := by
  have whole := trimmed_append mark [] domain trimmed (trimmed_domain domain canonical) some_mark
    (Host.normalize_ne_nil domain domain canonical)
  rwa [List.append_nil] at whole

theorem lower_before_domain (mark : Text) (lower : mark.asciiLower = mark) :
    asciiLower (mark ++ domain) = mark ++ domain := by
  have small := Host.small_name_of_normalize domain domain canonical
  rw [asciiLower, List.map_append, ← asciiLower, ← asciiLower, lower,
    Host.lower_small_name domain small]

theorem domains_on_domain : domains? (onDomain domain) = some domain := by
  have trimmed : IsTrimmed (onDomain domain) :=
    trimmed_before_domain domain canonical _ (trimmed_of_trim_eq _ (by decide)) (by decide)
  have lower : asciiLower (onDomain domain) = onDomain domain :=
    lower_before_domain domain canonical _ (by decide)
  rw [domains?, plain, trim_eq _ trimmed, lower]
  exact strip_prefix_append _ domain

theorem tokens_on_domain : tokens [onDomain domain] = [domain] := by
  have bar : '|' ∉ domain := absent_from_domain domain canonical '|' (by decide)
  rw [tokens, List.filterMap_cons, domains_on_domain domain canonical]
  simp [split_all_whole '|' domain bar]

theorem allows_on_domain (host : Text) :
    AllowsHost Host.IsWithin [onDomain domain] host ↔ Host.IsWithin host domain := by
  have noTilde : domain.head? ≠ some '~' := by
    intro head
    exact absent_from_domain domain canonical '~' (by decide) (List.mem_of_mem_head? head)
  have whole : domain.trim = domain := trim_eq domain (trimmed_domain domain canonical)
  have naming : Sites.IsNaming domain := by
    rw [Sites.IsNaming, whole]
    exact ⟨Host.normalize_ne_nil domain domain canonical, noTilde⟩
  have named : Sites.named? domain = some domain :=
    (Sites.named_eq_some_iff domain domain).mpr ⟨naming, canonical⟩
  have excepted : Sites.excepted? domain = none := by
    rw [Sites.excepted?, whole]
    split
    · exact absurd rfl noTilde
    · rfl
  simp [AllowsHost, Names, Excepts, tokens_on_domain domain canonical, named, excepted]

theorem plain_on_domain : IsPlain (onDomain domain) := by
  have absent (c : Char) (noName : Host.isNameChar c = false) (noMark : c ∉ "domain=".toList) :
      c ∉ onDomain domain := by
    intro member
    rcases List.mem_append.mp member with mark | within
    · exact noMark mark
    · exact absent_from_domain domain canonical c noName within
  exact ⟨absent '$' (by decide) (by decide), absent ',' (by decide) (by decide),
    absent '#' (by decide) (by decide), absent '\n' (by decide) (by decide)⟩

theorem name_on_domain : name? (onDomain domain) = none := by
  rw [name?, domains_on_domain domain canonical]
  rfl

end onDomain

theorem allows_host_unlisted (option host : Text) (unlisted : tokens [option] = []) :
    AllowsHost Host.IsWithin [option] host := by
  simp [AllowsHost, Names, Excepts, unlisted]

theorem allows_party_unnamed (option : Text) (party : Party) (unnamed : party? option = none) :
    AllowsParty [option] party := by
  simp [AllowsParty, lastParty?, unnamed]

theorem allows_party_third (party : Party) :
    AllowsParty ["third-party".toList] party ↔ party = .third := by
  have asked : lastParty? ["third-party".toList] = some .third := by decide
  rw [AllowsParty, asked]
  simp

end Options

theorem RuleSet.blocked_by_line (line : Text) (single : '\n' ∉ line) (rule : PatternRule)
    (read : Rule.ofLine line = .ok (some (.pattern .block rule))) (enabled : Bool) (r : Request) :
    ((ofList line).set.judge enabled r).isBlocked =
      (enabled && r.isFiltered && !r.isExempt && rule.accepts r) := by
  have filled : line ≠ [] := by
    intro empty
    rw [empty] at read
    cases read
  have alone : Rule.ofList line = [.pattern .block rule] := by
    change line.lines.filterMap Rule.inLine? = _
    rw [lines_whole line single filled, List.filterMap_cons,
      (Rule.in_line_eq_some line _).mpr read]
    rfl
  rw [is_blocked_eq _ _ (holds_of_list line), alone]
  simp [Rule.applies]

end ContentFilter
