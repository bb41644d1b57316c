import ContentFilter.Proofs.Host.Registry
import ContentFilter.Proofs.Regex.Room
import ContentFilter.Proofs.Url.WebAddress
import ContentFilter.Proofs.Wildcard.Meaning

namespace ContentFilter.Wildcard

open Regex Unicode

def hostFilter (name : Text) : Text := "||".toList ++ name ++ ['^']

theorem name_char_no_separator (c : Char) (nameChar : Host.isNameChar c = true) :
    isSeparator c = false := by
  revert nameChar c
  exact Host.of_name_chars (by decide +kernel)

theorem name_char_token (c : Char) (nameChar : Host.isNameChar c = true) :
    Token.ofChar c = .char c := by
  revert nameChar c
  exact Host.of_name_chars (by decide)

theorem name_char_class (c : Char) (nameChar : Host.isNameChar c = true) :
    ((sameCase c).all fun l =>
      l == c || c.toLower != c || !Host.isNameChar l || l.toLower != l) = true := by
  revert nameChar c
  exact Host.of_name_chars (by decide +kernel)

theorem same_case_small (c l : Char) (nameChar : Host.isNameChar c = true) (small : c.toLower = c)
    (nameChar' : Host.isNameChar l = true) (small' : l.toLower = l) (same : l ∈ sameCase c) :
    l = c := by
  have checked := List.all_eq_true.mp (name_char_class c nameChar) l same
  simpa [small, nameChar', small'] using checked

theorem follows_host_sign (c : Char) (sign : c ∈ [':', '/', '?', '#']) :
    isSeparator c = true ∧ sameCase c = [c] ∧ Host.isNameChar c = false := by
  have checked : [':', '/', '?', '#'].all (fun d =>
      isSeparator d && sameCase d == [d] && !Host.isNameChar d) = true := by decide +kernel
  simpa [and_assoc] using List.all_eq_true.mp checked c sign

theorem of_text_host (name : Text) (chars : ∀ c ∈ name, Host.isNameChar c = true) :
    ofText (hostFilter name) =
      { anchor := .domain, body := name.map .char ++ [.separator], atEnd := false } := by
  have open_end : (name ++ ['^']).stripLast? '|' = none := by
    rw [Option.eq_none_iff_forall_ne_some]
    intro front found
    have same := congrArg List.getLast? (Text.strip_last_some '|' _ front found)
    simp at same
  have tokens : name.map Token.ofChar = name.map .char :=
    List.map_congr_left fun c member => name_char_token c (chars c member)
  have anchored : anchorOf (hostFilter name) = (.domain, name ++ ['^']) := rfl
  rw [ofText, anchored]
  dsimp only
  rw [open_end, List.map_append, tokens]
  rfl

/-- A text begins with a name up to case, and then a separator or its end comes. -/
def Spelled : Text → Text → Prop
  | [], t => t = [] ∨ ∃ c ∈ t.head?, isSeparator c = true
  | a :: name, t => ∃ c r, t = c :: r ∧ a ∈ sameCase c ∧ Spelled name r

theorem reads_name (t name : Text) (i : Nat) (inside : i ≤ t.length) :
    (∃ j, Reads t (name.map .char ++ [.separator]) i j) ↔ Spelled name (t.drop i) := by
  induction name generalizing i with
  | nil =>
      have ended : t.drop i = [] ↔ i = t.length := by
        rw [List.drop_eq_nil_iff]
        omega
      simp only [List.map_nil, List.nil_append, Reads, Spelled, ended, List.head?_drop,
        Option.mem_def]
      constructor
      · rintro ⟨j, ⟨c, present, separates, -⟩ | ⟨last, -⟩⟩
        · exact Or.inr ⟨c, present, separates⟩
        · exact Or.inl last
      · rintro (last | ⟨c, present, separates⟩)
        · exact ⟨i, Or.inr ⟨last, rfl⟩⟩
        · exact ⟨i + 1, Or.inl ⟨c, present, separates, rfl⟩⟩
  | cons a name ih =>
      simp only [List.map_cons, List.cons_append, Reads, Spelled]
      constructor
      · rintro ⟨j, c, present, same, read⟩
        have within := (List.getElem?_eq_some_iff.mp present).1
        exact ⟨c, t.drop (i + 1), drop_of_present t i c present, same,
          (ih (i + 1) within).mp ⟨j, read⟩⟩
      · rintro ⟨c, r, cut, same, spelled⟩
        have present : t[i]? = some c := by rw [← List.head?_drop, cut, List.head?_cons]
        have within := (List.getElem?_eq_some_iff.mp present).1
        have rest : r = t.drop (i + 1) := by
          rw [drop_of_present t i c present] at cut
          exact (List.cons.inj cut).2.symm
        obtain ⟨j, read⟩ := (ih (i + 1) within).mpr (rest ▸ spelled)
        exact ⟨j, c, present, same, read⟩

theorem spelled_iff (name host rest : Text) (small : Host.IsSmallName name)
    (smallHost : Host.IsSmallName host) (follows : FollowsHost rest) :
    Spelled name (host ++ rest) ↔ host = name := by
  induction name generalizing host with
  | nil =>
      cases host with
      | nil =>
          simp only [List.nil_append, Spelled, iff_true]
          cases rest with
          | nil => exact Or.inl rfl
          | cons c r => exact Or.inr ⟨c, rfl, (follows_host_sign c (follows.head c rfl)).1⟩
      | cons c host =>
          have plain := name_char_no_separator c (smallHost c List.mem_cons_self).1
          simp [Spelled, plain]
  | cons a name ih =>
      obtain ⟨isName, isSmall⟩ := small a List.mem_cons_self
      have later : Host.IsSmallName name := fun d member => small d (List.mem_cons_of_mem a member)
      cases host with
      | nil =>
          simp only [List.nil_append, Spelled, List.nil_eq, reduceCtorEq, iff_false]
          rintro ⟨c, r, rfl, same, -⟩
          obtain ⟨-, alone, other⟩ := follows_host_sign c (follows.head c rfl)
          rw [alone, List.mem_singleton] at same
          rw [same, other] at isName
          cases isName
      | cons c host =>
          obtain ⟨isName', isSmall'⟩ := smallHost c List.mem_cons_self
          have onward := ih host later fun d member => smallHost d (List.mem_cons_of_mem c member)
          simp only [List.cons_append, Spelled, List.cons.injEq]
          constructor
          · rintro ⟨d, r, ⟨rfl, rfl⟩, same, spelled⟩
            exact ⟨(same_case_small c a isName' isSmall' isName isSmall same).symm,
              onward.mp spelled⟩
          · rintro ⟨rfl, same⟩
            exact ⟨c, host ++ rest, ⟨rfl, rfl⟩, self_mem_same_case c, onward.mpr same⟩

theorem scheme_ends_at (scheme rest : Text) (letters : ∀ c ∈ scheme, isAsciiLetter c = true)
    (some_scheme : scheme ≠ []) (i : Nat) :
    SchemeEnds (scheme ++ "://".toList ++ rest) i ↔ i = scheme.length + 3 := by
  have no_colon (d : Char) (isChar : IsSchemeChar d) : (d != ':') = true := by
    rw [bne_iff_ne]
    rintro rfl
    obtain ⟨l, same, kind⟩ := isChar
    rw [(follows_host_sign ':' (by simp)).2.1, List.mem_singleton] at same
    subst same
    revert kind
    decide
  have plain (d : Char) (letter : isAsciiLetter d = true) : IsSchemeChar d :=
    ⟨d, self_mem_same_case d, Or.inl letter⟩
  obtain ⟨first, more, rfl⟩ := List.exists_cons_of_ne_nil some_scheme
  constructor
  · rintro ⟨c, chars, after, same, rfl, ⟨l, folded, letter⟩, allowed⟩
    -- both schemes are the text in front of its first colon
    have here : (first :: more ++ "://".toList ++ rest).takeWhile (· != ':') = first :: more := by
      rw [List.append_assoc, List.takeWhile_append_of_pos fun d member =>
        no_colon d (plain d (letters d member))]
      simp
    have there : (c :: chars ++ ':' :: '/' :: '/' :: after).takeWhile (· != ':') = c :: chars := by
      rw [List.takeWhile_append_of_pos]
      · simp
      · intro d member
        rcases List.mem_cons.mp member with rfl | among
        · exact no_colon d ⟨l, folded, Or.inl letter⟩
        · exact no_colon d (allowed d among)
    rw [same, there] at here
    rw [← here, List.length_cons]
  · rintro rfl
    refine ⟨first, more, rest, by simp, by simp, ?_, ?_⟩
    · exact ⟨first, self_mem_same_case first, letters first List.mem_cons_self⟩
    · intro d member
      exact plain d (letters d (List.mem_cons_of_mem first member))

theorem anchored_inside (t : Text) (i : Nat) (anchored : Anchored t .domain i) : i ≤ t.length := by
  obtain ⟨s, ends, here | ⟨k, -, next, dot, -⟩⟩ := anchored
  · obtain ⟨c, scheme, rest, written, last, -⟩ := ends
    rw [here, last, written]
    simp only [List.length_append, List.length_cons]
    omega
  · rw [next]
    exact (List.getElem?_eq_some_iff.mp dot).1

theorem anchored_domain_iff (t : Text) (start : Nat)
    (ends : ∀ i, SchemeEnds t i ↔ i = start) (p : Text → Prop) :
    (∃ i, Anchored t .domain i ∧ p (t.drop i)) ↔
      p (t.drop start) ∨ ∃ front back, t.drop start = front ++ '.' :: back ∧
        (∀ c ∈ front, c ∉ ['/', '?', '#']) ∧ p back := by
  have present (n : Nat) : t[start + n]? = (t.drop start)[n]? := List.getElem?_drop.symm
  simp only [Anchored, ends]
  constructor
  · rintro ⟨i, ⟨s, rfl, rfl | ⟨k, low, rfl, dot, authority⟩⟩, holds⟩
    · exact Or.inl holds
    · obtain ⟨n, rfl⟩ := Nat.exists_eq_add_of_le low
      rw [present] at dot
      refine Or.inr ⟨(t.drop s).take n, (t.drop s).drop (n + 1), ?_, ?_, ?_⟩
      · rw [← drop_of_present _ n '.' dot, List.take_append_drop]
      · intro c member
        obtain ⟨m, early, rfl⟩ := List.mem_take_iff_getElem.mp member
        obtain ⟨d, found, plain⟩ := authority (s + m) (by omega) (by omega)
        rw [present] at found
        obtain ⟨_, same⟩ := List.getElem?_eq_some_iff.mp found
        exact same ▸ plain
      · rwa [List.drop_drop]
  · rintro (holds | ⟨front, back, cut, plain, holds⟩)
    · exact ⟨start, ⟨start, rfl, Or.inl rfl⟩, holds⟩
    · refine ⟨start + front.length + 1, ⟨start, rfl, Or.inr
        ⟨start + front.length, by omega, rfl, ?_, ?_⟩⟩, ?_⟩
      · rw [present, cut]
        simp
      · intro n low high
        obtain ⟨m, rfl⟩ := Nat.exists_eq_add_of_le low
        have early : m < front.length := by omega
        refine ⟨front[m], ?_, plain _ (List.getElem_mem early)⟩
        rw [present, cut, List.getElem?_append_left early, List.getElem?_eq_getElem early]
      · have behind : t.drop (start + front.length + 1) = back := by
          rw [Nat.add_assoc, ← List.drop_drop, cut, ← List.singleton_append, ← List.append_assoc,
            List.drop_left' (by simp)]
        rwa [behind]

theorem behind_dot_iff (host rest back : Text) (plain : ∀ c ∈ host, c ∉ ['/', '?', '#'])
    (follows : FollowsHost rest) :
    (∃ front, host ++ rest = front ++ '.' :: back ∧ ∀ c ∈ front, c ∉ ['/', '?', '#']) ↔
      ∃ domain, back = domain ++ rest ∧ ('.' :: domain) <:+ host := by
  constructor
  · rintro ⟨front, cut, open_front⟩
    rcases List.append_eq_append_iff.mp cut with ⟨more, rfl, rest_eq⟩ | ⟨more, rfl, back_eq⟩
    · -- the dot would stand behind the host and still in the authority
      have early : '.' ∈ rest.takeWhile (!Url.endsAuthority ·) := by
        have goesOn : ∀ c ∈ more, (!Url.endsAuthority c) = true := by
          intro c member
          have goes := open_front c (List.mem_append_right host member)
          simpa [Url.endsAuthority, and_assoc] using goes
        rw [rest_eq, List.takeWhile_append_of_pos goesOn]
        simp [Url.endsAuthority]
      exact absurd early follows.dotless
    · cases more with
      | nil =>
          have head := follows.head '.' (by rw [← List.nil_append rest, ← back_eq]; rfl)
          simp at head
      | cons c domain =>
          obtain ⟨rfl, rfl⟩ := List.cons.inj back_eq
          exact ⟨domain, rfl, front, rfl⟩
  · rintro ⟨domain, rfl, front, rfl⟩
    exact ⟨front, by simp, fun c member => plain c (List.mem_append_left _ member)⟩

/-- The filter on a host is found where the host of a web address lies under it. -/
theorem accepts_host_iff (scheme host rest name : Text)
    (letters : ∀ c ∈ scheme, isAsciiLetter c = true) (some_scheme : scheme ≠ [])
    (smallHost : Host.IsSmallName host) (follows : FollowsHost rest)
    (small : Host.IsSmallName name) :
    (ofText (hostFilter name)).Accepts (scheme ++ "://".toList ++ (host ++ rest)) ↔
      Host.IsUnder host name := by
  have ends := scheme_ends_at scheme (host ++ rest) letters some_scheme
  have behind : (scheme ++ "://".toList ++ (host ++ rest)).drop (scheme.length + 3) =
      host ++ rest := List.drop_left' (by simp)
  generalize scheme ++ "://".toList ++ (host ++ rest) = t at *
  have accepts : (ofText (hostFilter name)).Accepts t ↔
      ∃ i, Anchored t .domain i ∧ Spelled name (t.drop i) := by
    rw [of_text_host name fun c member => (small c member).1, Accepts]
    simp only [Bool.false_eq_true, false_imp_iff, and_true, exists_and_left]
    refine exists_congr fun i => and_congr_right fun anchored => ?_
    exact reads_name t name i (anchored_inside t i anchored)
  have inAuthority : ∀ c ∈ host, c ∉ ['/', '?', '#'] := by
    intro c member
    have plain := Host.name_char_plain c (smallHost c member).1
    simp_all
  rw [accepts, anchored_domain_iff t _ ends (Spelled name), behind,
    spelled_iff name host rest small smallHost follows, Host.IsUnder]
  refine or_congr_right ?_
  constructor
  · rintro ⟨front, back, cut, plain, spelled⟩
    obtain ⟨domain, rfl, below⟩ :=
      (behind_dot_iff host rest back inAuthority follows).mp ⟨front, cut, plain⟩
    have smallDomain : Host.IsSmallName domain := fun c member =>
      smallHost c (below.subset (List.mem_cons_of_mem _ member))
    rwa [← (spelled_iff name domain rest small smallDomain follows).mp spelled]
  · intro below
    obtain ⟨front, cut, plain⟩ :=
      (behind_dot_iff host rest (name ++ rest) inAuthority follows).mpr ⟨name, rfl, below⟩
    have spelled := (spelled_iff name name rest small small follows).mpr rfl
    exact ⟨front, name ++ rest, cut, plain, spelled⟩

theorem merge_runs_host (name : Text) (afterRun : Bool) :
    mergeRuns afterRun (name.map .char ++ [.separator]) = name.map .char ++ [.separator] := by
  induction name generalizing afterRun with
  | nil => rfl
  | cons c name ih => simp [mergeRuns, ih]

theorem host_regex (name : Text) (chars : ∀ c ∈ name, Host.isNameChar c = true) :
    (ofText (hostFilter name)).regex =
      .seqAll (anchorRegexes .domain ++ (name.map literal ++ [separatorRegex])) := by
  rw [of_text_host name chars, regex, merge_runs_host]
  simp [endRegexes, tokenRegex, Function.comp_def]

theorem host_filter_fits (name : Text) (chars : ∀ c ∈ name, Host.isNameChar c = true)
    (short : name.length ≤ 16384) : Room.fits (ofText (hostFilter name)).regex = true := by
  have each : ∀ room ∈ (name.map Token.char).map tokenRoom, room ≤ 308 := by
    intro room member
    rw [List.map_map] at member
    obtain ⟨c, present, rfl⟩ := List.mem_map.mp member
    exact (if_pos (Host.name_char_ascii c (chars c present))).le
  have characters := List.sum_le_card_nsmul _ 308 each
  rw [List.length_map, List.length_map, Nat.nsmul_eq_mul] at characters
  apply fits_of_tokens
  rw [of_text_host name chars, List.map_append, List.sum_append]
  simp only [List.map_cons, List.map_nil, List.sum_cons, List.sum_nil, tokenRoom]
  omega

theorem zeros_too_large (n : Nat) (many : 327681 ≤ n) (rest : Text)
    (chars : ∀ c ∈ rest, Host.isNameChar c = true) :
    Room.fits (ofText (hostFilter (List.replicate n '0' ++ rest))).regex = false := by
  have allChars : ∀ c ∈ List.replicate n '0' ++ rest, Host.isNameChar c = true := by
    intro c member
    rcases List.mem_append.mp member with zero | other
    · rw [(List.mem_replicate.mp zero).2]
      decide
    · exact chars c other
  have parts : (List.replicate n '0' ++ rest).map literal ++ [separatorRegex] =
      List.replicate n (literal '0') ++ (rest.map literal ++ [separatorRegex]) := by
    simp
  have zero : (literal '0').layout = .literal ['0'] := by decide +kernel
  have long := layout_replicate (literal '0') '0' zero n
    (rest.map literal ++ [separatorRegex]) (by simp)
  have string := Layout.has_of_leading n _ (by omega) long
  have more : List.replicate n (literal '0') ++ (rest.map literal ++ [separatorRegex]) ≠ [] := by
    simp
  have large : Room.limit < Room.stateBytes * n := by
    rw [show Room.limit = 10485760 from rfl, Room.stateBytes]
    omega
  have anchor : ∃ front, anchorRegexes .domain = .look .textStart :: front := ⟨_, rfl⟩
  obtain ⟨front, anchor⟩ := anchor
  rw [host_regex _ allChars, parts, anchor]
  -- The parts are not to be laid out here.
  generalize List.replicate n (literal '0') ++ (rest.map literal ++ [separatorRegex]) = written at *
  exact Room.not_fits n large _ (Room.look_first .textStart (front ++ written))
    (layout_has n (.look .textStart :: front) written more string)

end ContentFilter.Wildcard

namespace ContentFilter.Pattern

open Wildcard

theorem compile_host_filter (name : Text) :
    compile (hostFilter name) =
      if Regex.Room.fits (ofText (hostFilter name)).regex then
        .ok ⟨(ofText (hostFilter name)).regex⟩
      else .error .tooLarge :=
  compile_wildcard (hostFilter name) rfl

theorem occurs_in_address (a : WebAddress) (name : Text) (small : Host.IsSmallName name)
    (p : Pattern) (compiled : compile (hostFilter name) = .ok p) :
    p.occursIn a.text.lower = true ↔ Host.IsUnder a.host.asciiLower name := by
  have letters : a.scheme.asciiLower.all isAsciiLetter = true ∧ a.scheme.asciiLower ≠ [] := by
    rcases a.isWeb with http | https
    · rw [http]
      decide
    · rw [https]
      decide
  obtain ⟨rest, follows, lowered⟩ := a.lower_text
  rw [occurs_in_wildcard (hostFilter name) rfl p compiled, lowered]
  exact accepts_host_iff _ _ rest name (List.all_eq_true.mp letters.1) letters.2
    (Host.small_name_lower a.host a.nameChars) follows small

end ContentFilter.Pattern
