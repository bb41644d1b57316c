import ContentFilter.Proofs.Hiding.Exceptions
import ContentFilter.Proofs.Wildcard.Meaning
import ContentFilter.Rule.Line

namespace ContentFilter

open Text

namespace Host

theorem is_address_cons (c : Char) (r : Text) (digit : isHexDigit c = false) (dot : c ≠ '.')
    (colon : c ≠ ':') : isAddress (c :: r) = false := by
  have group (s : Text) : isGroup (c :: s) = false := by simp [isGroup, digit]
  have octet (s : Text) : isOctet (c :: s) = false := by
    have decimal : isAsciiDigit c = false := by
      rw [isHexDigit, Bool.or_assoc, Bool.or_eq_false_iff] at digit
      exact digit.1
    simp [isOctet, decimal]
  have octets (s : Text) : isIPv4 (c :: s) = false := by
    obtain ⟨part, parts, -, cut⟩ := split_where_cons (· == '.') c s (by simp [dot])
    rw [isIPv4, splitAll, cut]
    simp [octet]
  have parted (s : Text) : ∃ part parts, splitAll ':' (c :: s) = (c :: part) :: parts := by
    obtain ⟨part, parts, -, cut⟩ := split_where_cons (· == ':') c s (by simp [colon])
    exact ⟨part, parts, cut⟩
  have groups : isIPv6 (c :: r) = false := by
    rw [isIPv6]
    cases found : splitOnce (c :: r) [':', ':'] with
    | none =>
        obtain ⟨part, parts, cut⟩ := parted r
        have none_counted : groupCount? (splitAll ':' (c :: r)) = none := by
          rw [cut]
          cases parts with
          | nil => simp [groupCount?, group, octets]
          | cons next parts => simp [groupCount?, group]
        dsimp only
        rw [none_counted]
        rfl
    | some sides =>
        obtain ⟨front, back⟩ := sides
        have whole := split_once_some (c :: r) [':', ':'] front back found
        cases front with
        | nil => exact absurd (List.cons.inj whole).1 colon
        | cons d front =>
            obtain rfl := (List.cons.inj whole).1
            obtain ⟨part, parts, cut⟩ := parted front
            have side : sideParts (c :: front) = (c :: part) :: parts := cut
            dsimp only
            rw [side, List.all_cons, group, Bool.false_and, Bool.false_and]
  rw [isAddress, octets, groups, Bool.or_false]

theorem of_filter_slash (r : Text) (trimmed : IsTrimmed ('/' :: r)) :
    ofFilter? ('/' :: r) = none := by
  have hosts_line : ofHostsLine? ('/' :: r) = none := by
    obtain ⟨part, parts, -, cut⟩ := split_where_cons isBlank '/' r rfl
    have first : words ('/' :: r) = ('/' :: part) :: parts.filter fun word => !word.isEmpty := by
      rw [words, cut]
      rfl
    have address := is_address_cons '/' part rfl (by decide) (by decide)
    rw [ofHostsLine?, first]
    split
    · rename_i written name same
      rw [← (List.cons.inj same).1, address]
      rfl
    · rfl
  rw [ofFilter?, trim_eq _ trimmed]
  have noMark : stripPrefix? ('/' :: r) ['@', '@'] = none := rfl
  have noAnchor : stripPrefix? ('/' :: r) ['|', '|'] = none := rfl
  simp only [noMark, Option.getD_none, noAnchor, hosts_line, ite_self]

end Host

def Text.inSlashes (r : Text) : Text := '/' :: (r ++ ['/'])

namespace Text

variable (r : Text)

theorem in_slashes_trimmed : IsTrimmed (inSlashes r) := by
  constructor
  · intro c head
    obtain rfl := Option.some.inj head
    rfl
  · intro c last
    rw [inSlashes, ← List.cons_append, List.getLast?_append] at last
    obtain rfl := Option.some.inj last
    rfl

end Text

/-- What an expression compiles to, if it can be read and does not grow too large. -/
def Regex.compiled? (r : Text) : Option Regex := (read? r).filter Room.fits

namespace Pattern

theorem expression_some (s r : Text) (found : expression? s = some r) : s = inSlashes r := by
  unfold expression? at found
  split at found
  · rename_i rest
    obtain ⟨stripped, -⟩ := Option.filter_eq_some_iff.mp found
    rw [strip_last_some '/' rest r stripped, inSlashes]
  · cases found

variable (r : Text) (some_text : r ≠ [])

include some_text

theorem expression_in_slashes : expression? (inSlashes r) = some r := by
  change (stripLast? '/' (r ++ ['/'])).filter (!·.isEmpty) = some r
  rw [strip_last_append]
  simpa using some_text

theorem compile_in_slashes :
    compile (inSlashes r) =
      match Regex.compiled? r with
      | some regex => .ok ⟨regex⟩
      | none => .error (if (Regex.read? r).isNone then .malformed else .tooLarge) := by
  rw [compile, regex?, expression_in_slashes r some_text, Option.getD_some, Regex.compiled?]
  cases Regex.read? r with
  | none => rfl
  | some regex =>
      rw [Option.filter_some]
      by_cases fits : Regex.Room.fits regex = true <;> simp [fits]

end Pattern

namespace Options

theorem split_plain (filter : Text) (plain : '$' ∉ filter) : split filter = (filter, {}) := by
  rw [split, split_last_none '$' filter plain]

theorem split_dollar (c : Char) (pattern options : Text) (last : '$' ∉ options) :
    split (c :: pattern ++ '$' :: options) = (c :: pattern, ofText options) := by
  rw [split, split_last_append '$' (c :: pattern) options last]

end Options

namespace PatternRule

def keeping (kept : PatternFilter) : Option Parties → PatternRule
  | some parties => .party kept parties
  | none => .standard kept

theorem of_filter_split (filter line pattern : Text) (options : Options)
    (parted : Options.split filter = (pattern, options))
    (judged : options.resource = true → options.parties ≠ none) :
    ofFilter filter line =
      match Pattern.compile pattern with
      | .error error => .error ⟨line, pattern, error⟩
      | .ok compiled => .ok (keeping ⟨filter, compiled, options.sites⟩ options.parties) := by
  have known : ¬ (options.resource && options.parties.isNone) = true := by
    rw [Bool.and_eq_true, Option.isNone_iff_eq_none]
    exact fun unknown => judged unknown.1 unknown.2
  rw [ofFilter, parted]
  dsimp only
  rw [if_neg known]
  cases Pattern.compile pattern with
  | error error => rfl
  | ok compiled => cases options.parties <;> rfl

end PatternRule

namespace Rule

/-- A line gives the rule of a pattern and of options, or is rejected along with the pattern. -/
structure ReadsAs (action : Action) (line filter pattern : Text) (options : Options) : Prop where
  unknown : options.resource = true → options.parties = none →
    ofLine line = .ok (some (.pattern action (.null filter)))
  rejected : (options.resource = true → options.parties ≠ none) → ∀ error,
    Pattern.compile pattern = .error error → ofLine line = .error ⟨line, pattern, error⟩
  compiled : (options.resource = true → options.parties ≠ none) → ∀ regex,
    Pattern.compile pattern = .ok ⟨regex⟩ →
      ∃ rule, ofLine line = .ok (some (.pattern action rule)) ∧ rule.source = filter ∧
        (options.parties = none → ∃ kept, rule = .standard kept) ∧
        ∀ q, rule.accepts q = true ↔
          (∀ parties ∈ options.parties, parties.has q.party = true) ∧
            (∀ sites ∈ options.sites, sites.allows q.site = true) ∧
              Regex.OccursIn regex q.lowerUrl

/-- A line means an expression: it is rejected just if this does not compile, and its rule is for
just the requests in whose URL the expression is found. -/
structure MeansExpression (action : Action) (line filter r : Text) : Prop where
  rejected : (∃ failure, ofLine line = .error failure) ↔ Regex.compiled? r = none
  named : ∀ failure, ofLine line = .error failure → failure.line = line ∧ failure.pattern = filter
  compiled : ∀ regex, Regex.compiled? r = some regex →
    ∃ kept : PatternFilter, kept.source = filter ∧
      ofLine line = .ok (some (.pattern action (.standard kept))) ∧
        ∀ q : Request,
          (PatternRule.standard kept).accepts q = true ↔ Regex.OccursIn regex q.lowerUrl

section line

variable (r : Text)

theorem of_filter_no_host (action : Action) (filter line : Text)
    (noHost : Host.ofFilter? filter = none) :
    (ofFilter action filter line).map some =
      (PatternRule.ofFilter filter line).map fun rule => some (.pattern action rule) := by
  rw [ofFilter, noHost]
  cases PatternRule.ofFilter filter line <;> rfl

theorem of_line_unmarked (line : Text) (isRule : ¬ (line.trim.isEmpty || isComment line.trim) = true)
    (noException : ¬ ['@', '@'] <+: line.trim) (noHiding : ¬ hidingMark <:+: line.trim)
    (noHidingException : ¬ exceptionMark <:+: line.trim) :
    ofLine line = (ofFilter .block line.trim line.trim).map some := by
  have first : splitOnce line.trim ['#', '#'] = none :=
    (split_once_none line.trim hidingMark (by decide)).mpr noHiding
  have second : splitOnce line.trim ['#', '@', '#'] = none :=
    (split_once_none line.trim exceptionMark (by decide)).mpr noHidingException
  rw [ofLine, if_neg isRule]
  split
  · rename_i rest exempt
    exact absurd ⟨rest, exempt.symm⟩ noException
  · rw [first, second]

theorem of_line_block (line : Text) (isRule : ¬ (line.trim.isEmpty || isComment line.trim) = true)
    (noException : ¬ ['@', '@'] <+: line.trim) (noHiding : ¬ hidingMark <:+: line.trim)
    (noHidingException : ¬ exceptionMark <:+: line.trim)
    (noHost : Host.ofFilter? line.trim = none) :
    ofLine line =
      (PatternRule.ofFilter line.trim line.trim).map fun rule => some (.pattern .block rule) := by
  rw [of_line_unmarked line isRule noException noHiding noHidingException]
  exact of_filter_no_host .block line.trim line.trim noHost

theorem of_line_marked (filter : Text) (trimmed : IsTrimmed filter) (some_filter : filter ≠ []) :
    ofLine ('@' :: '@' :: filter) = (ofFilter .allow filter ('@' :: '@' :: filter)).map some := by
  have mark : IsTrimmed ['@', '@'] := trimmed_of_trim_eq ['@', '@'] (by decide)
  have whole : trim ('@' :: '@' :: filter) = '@' :: '@' :: filter :=
    trim_eq _ (trimmed_append ['@', '@'] [] filter mark trimmed (by decide) some_filter)
  have behind : trimStart filter = filter := by
    cases filter with
    | nil => rfl
    | cons c r => simp [trimStart, trimmed.1 c rfl]
  rw [ofLine, whole]
  change (if (trimStart filter).isEmpty = true then Except.ok none
    else (ofFilter .allow (trimStart filter) ('@' :: '@' :: filter)).map some) = _
  rw [behind, if_neg (by simpa using some_filter)]

theorem of_line_in_slashes (noMark : ¬ hidingMark <:+: inSlashes r)
    (noException : ¬ exceptionMark <:+: inSlashes r) :
    ofLine (inSlashes r) =
      (PatternRule.ofFilter (inSlashes r) (inSlashes r)).map fun rule =>
        some (.pattern .block rule) := by
  have whole := trim_eq _ (in_slashes_trimmed r)
  have blocks := of_line_block (inSlashes r)
  rw [whole] at blocks
  apply blocks
  · exact Bool.false_ne_true
  · rintro ⟨rest, same⟩
    exact absurd (List.cons.inj same).1 (by decide)
  · exact noMark
  · exact noException
  · exact Host.of_filter_slash (r ++ ['/']) (in_slashes_trimmed r)

theorem of_line_exempt : ofLine ('@' :: '@' :: inSlashes r) =
    (PatternRule.ofFilter (inSlashes r) ('@' :: '@' :: inSlashes r)).map fun rule =>
      some (.pattern .allow rule) := by
  have noHost : Host.ofFilter? (inSlashes r) = none :=
    Host.of_filter_slash (r ++ ['/']) (in_slashes_trimmed r)
  rw [of_line_marked (inSlashes r) (in_slashes_trimmed r) (List.cons_ne_nil _ _)]
  exact of_filter_no_host _ _ _ noHost

end line

/-- What a filter gives is up to the pattern and the options that it is parted into. -/
theorem reads_as_split (action : Action) (line filter : Text)
    (read : ofLine line =
      (PatternRule.ofFilter filter line).map fun rule => some (.pattern action rule)) :
    ReadsAs action line filter (Options.split filter).1 (Options.split filter).2 := by
  rcases cut : Options.split filter with ⟨pattern, options⟩
  constructor
  · intro resource anyParty
    rw [read, PatternRule.ofFilter, cut]
    dsimp only at resource anyParty ⊢
    rw [resource, anyParty]
    rfl
  · intro judged error failed
    rw [read, PatternRule.of_filter_split filter line pattern options cut judged, failed]
    rfl
  · intro judged regex built
    rw [PatternRule.of_filter_split filter line pattern options cut judged, built] at read
    have occurs (q : Request) : Pattern.occursIn ⟨regex⟩ q.lowerUrl = true ↔
        Regex.OccursIn regex q.lowerUrl := Regex.occurs_in_iff regex q.lowerUrl
    cases parties : options.parties with
    | none =>
        rw [parties] at read
        refine ⟨_, read, rfl, fun _ => ⟨_, rfl⟩, ?_⟩
        intro q
        simp [PatternRule.keeping, PatternRule.accepts, PatternFilter.accepts, occurs,
          Option.all_eq_true]
    | some some_party =>
        rw [parties] at read
        refine ⟨_, read, rfl, (fun none_given => nomatch none_given), ?_⟩
        intro q
        simp [PatternRule.keeping, PatternRule.accepts, PatternFilter.accepts, occurs,
          Option.all_eq_true]

theorem means_of_reads_as (action : Action) (line r : Text) (some_text : r ≠ [])
    (reads : ReadsAs action line (inSlashes r) (inSlashes r) {}) :
    MeansExpression action line (inSlashes r) r := by
  have compile := Pattern.compile_in_slashes r some_text
  cases built : Regex.compiled? r with
  | none =>
      rw [built] at compile
      have rejected := reads.rejected (fun resource => by cases resource) _ compile
      refine ⟨?_, ?_, ?_⟩
      · exact iff_of_true ⟨_, rejected⟩ built
      · intro failure failed
        obtain rfl := Except.error.inj (rejected.symm.trans failed)
        exact ⟨rfl, rfl⟩
      · intro regex other
        rw [built] at other
        cases other
  | some regex =>
      rw [built] at compile
      obtain ⟨rule, found, source, standard, accepts⟩ :=
        reads.compiled (fun resource => by cases resource) regex compile
      obtain ⟨kept, rfl⟩ := standard rfl
      have not_rejected (failure : RejectedLine) : ofLine line ≠ .error failure := by
        rw [found]
        exact fun same => by cases same
      refine ⟨?_, ?_, ?_⟩
      · refine iff_of_false ?_ (by rw [built]; exact Option.some_ne_none regex)
        rintro ⟨failure, failed⟩
        exact not_rejected failure failed
      · intro failure failed
        exact absurd failed (not_rejected failure)
      · intro other same
        obtain rfl := Option.some.inj (built.symm.trans same)
        refine ⟨kept, source, found, ?_⟩
        intro q
        rw [accepts]
        simp

/-- The expression in slashes is what is compiled if and only if there is no dollar sign in it. Then
the line means it, with an exception mark or without one; otherwise it gives the rule of what is
before the last dollar sign, with what is after it for options. -/
theorem expression_line_means (r : Text) (some_text : r ≠ [])
    (noMark : ¬ hidingMark <:+: inSlashes r) (noException : ¬ exceptionMark <:+: inSlashes r) :
    (Pattern.expression? (Options.split (inSlashes r)).1 = some r ↔ '$' ∉ r) ∧
      ('$' ∉ r →
        MeansExpression .block (inSlashes r) (inSlashes r) r ∧
          MeansExpression .allow ('@' :: '@' :: inSlashes r) (inSlashes r) r) ∧
      ∀ front back, r = front ++ '$' :: back → '$' ∉ back →
        ReadsAs .block (inSlashes r) (inSlashes r) ('/' :: front)
            (.ofText (back ++ ['/'])) ∧
          ReadsAs .allow ('@' :: '@' :: inSlashes r) (inSlashes r) ('/' :: front)
            (.ofText (back ++ ['/'])) := by
  have blocks := reads_as_split .block _ _ (of_line_in_slashes r noMark noException)
  have exempts := reads_as_split .allow _ _ (of_line_exempt r)
  have plain (absent : '$' ∉ r) : Options.split (inSlashes r) = (inSlashes r, {}) := by
    apply Options.split_plain
    simpa [inSlashes] using absent
  have dollar (front back : Text) (whole : r = front ++ '$' :: back) (last : '$' ∉ back) :
      Options.split (inSlashes r) = ('/' :: front, .ofText (back ++ ['/'])) := by
    have parted : inSlashes r = '/' :: front ++ '$' :: (back ++ ['/']) := by
      simp [inSlashes, whole]
    rw [parted]
    exact Options.split_dollar '/' front (back ++ ['/']) (by simpa using last)
  refine ⟨⟨?_, ?_⟩, ?_, ?_⟩
  · intro same member
    obtain ⟨back, front, turned, last⟩ :=
      List.eq_append_cons_of_mem (List.mem_reverse.mpr member)
    have whole : r = front.reverse ++ '$' :: back.reverse := by
      rw [← List.reverse_reverse r, turned]
      simp
    rw [dollar front.reverse back.reverse whole (by simpa using last)] at same
    have shorter := congrArg List.length (Pattern.expression_some _ r same)
    rw [whole] at shorter
    simp [inSlashes] at shorter
  · intro absent
    rw [plain absent]
    exact Pattern.expression_in_slashes r some_text
  · intro absent
    rw [plain absent] at blocks exempts
    exact ⟨means_of_reads_as .block _ r some_text blocks,
      means_of_reads_as .allow _ r some_text exempts⟩
  · intro front back whole last
    rw [dollar front back whole last] at blocks exempts
    exact ⟨blocks, exempts⟩

/-- An expression without a dollar sign is looked for as it is written. With a dollar sign for the
end of a URL it is cut: then the line is for a URL that the expression is not found in, and it is
not rejected where the expression is malformed. -/
theorem end_of_url_is_cut :
    (Regex.compiled? "/ad[0-9]*\\.".toList).isSome = true ∧
      MeansExpression .block "//ad[0-9]*\\./".toList "//ad[0-9]*\\./".toList
        "/ad[0-9]*\\.".toList ∧
      (∃ regex rule, Regex.compiled? "ads$".toList = some regex ∧
        ofLine "/ads$/".toList = .ok (some (.pattern .block rule)) ∧
        rule.accepts (.of "http://a.example/ads/x".toList [] [] []) = true ∧
        ¬ regex.OccursIn "http://a.example/ads/x".toList) ∧
      Regex.compiled? "ad(s$".toList = none ∧
        ∃ rule, ofLine "/ad(s$/".toList = .ok (some (.pattern .block rule)) := by
  obtain ⟨-, means, -⟩ := expression_line_means "/ad[0-9]*\\.".toList (by decide) (by decide)
    (by decide)
  obtain ⟨-, -, cut⟩ := expression_line_means "ads$".toList (by decide) (by decide) (by decide)
  obtain ⟨-, -, spoilt⟩ := expression_line_means "ad(s$".toList (by decide) (by decide) (by decide)
  obtain ⟨blocks, -⟩ := cut "ads".toList [] rfl (by decide)
  obtain ⟨accepted, -⟩ := spoilt "ad(s".toList [] rfl (by decide)
  refine ⟨by decide +kernel, (means (by decide)).1, ?_, by decide +kernel, ?_⟩
  · obtain ⟨rule, found, -, -, accepts⟩ := blocks.compiled (by decide) _
      (Pattern.compile_small "/ads".toList rfl (by decide))
    have absent : (Regex.compiled? "ads$".toList).any
        (!·.occursIn "http://a.example/ads/x".toList) = true := by decide +kernel
    obtain ⟨regex, compiled, missed⟩ := (Option.any_eq_true _ _).mp absent
    refine ⟨regex, rule, compiled, found, ?_, ?_⟩
    · rw [accepts]
      refine ⟨by decide, by decide, ?_⟩
      exact (Regex.occurs_in_iff _ _).mp (by decide +kernel)
    · rw [← Regex.occurs_in_iff]
      simpa using missed
  · obtain ⟨rule, found, -⟩ := accepted.compiled (by decide) _
      (Pattern.compile_small "/ad(s".toList rfl (by decide))
    exact ⟨rule, found⟩

end Rule

end ContentFilter
