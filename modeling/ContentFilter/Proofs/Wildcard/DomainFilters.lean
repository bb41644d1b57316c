import ContentFilter.Proofs.Url.Parts
import ContentFilter.Proofs.Wildcard.HostFilters
/-!
Filters that begin with a domain, `||host^` and whatever comes behind it. On a web address such a
filter is found only where the authority holds the domain, at its start or behind a dot, up to a
separator. That is the host of the address, or the end of it, as long as the domain is not written
in the user name, the host has no separators and the port has no dots.
-/
namespace ContentFilter

namespace Url

theorem of_scheme (url : Text) (scheme : Scheme) (known : scheme? url = some scheme)
    (other : scheme ≠ .data) :
    ∃ name rest, url = name ++ "://".toList ++ rest ∧
      (name.asciiLower, scheme) ∈ Scheme.hierarchical := by
  have small : ∀ entry ∈ Scheme.hierarchical, entry.1.asciiLower = entry.1 := by decide
  unfold scheme? at known
  split at known
  · cases known
  · rename_i name after cut
    split at known
    · exact absurd (Option.some.inj known).symm other
    · split at known
      · cases known
      · rename_i slashes
        have begun : ['/', '/'] <+: after := by
          rw [← List.isPrefixOf_iff_prefix]
          simpa using slashes
        obtain ⟨rest, rfl⟩ := begun
        obtain ⟨entry, found, rfl⟩ := Option.map_eq_some_iff.mp known
        have member := List.mem_of_find?_eq_some found
        have same : name.asciiLower = entry.1.asciiLower := by
          simpa [Text.equalIgnoringCase] using List.find?_some found
        refine ⟨name, rest, ?_, ?_⟩
        · rw [Text.split_once_some url [':'] name _ cut]
          simp
        · rw [same, small entry member]
          exact member

theorem web_parts (url : Text) (web : scheme? url = some .http ∨ scheme? url = some .https) :
    ∃ scheme rest, url = scheme ++ "://".toList ++ rest ∧
      (scheme.asciiLower = "http".toList ∨ scheme.asciiLower = "https".toList) := by
  rcases web with http | https
  · obtain ⟨name, rest, parts, entry⟩ := of_scheme url .http http (by decide)
    exact ⟨name, rest, parts, Or.inl (by simpa [Scheme.hierarchical] using entry)⟩
  · obtain ⟨name, rest, parts, entry⟩ := of_scheme url .https https (by decide)
    exact ⟨name, rest, parts, Or.inr (by simpa [Scheme.hierarchical] using entry)⟩

end Url

namespace Wildcard

open Regex Unicode

def SpelledAs (name text : Text) : Prop := List.Forall₂ (fun a c => a ∈ sameCase c) name text

/-- The name stands in an authority between what is before it and what is behind it: at the start or
behind a dot, and up to a separator or the end. -/
structure StandsIn (name authority front back : Text) : Prop where
  whole : ∃ middle, authority = front ++ middle ++ back ∧ SpelledAs name middle
  begins : ∀ c ∈ front.getLast?, c = '.'
  ends : ∀ c ∈ back.head?, isSeparator c = true

theorem ends_authority_sign (c : Char) (ends : Url.endsAuthority c = true) :
    c ∈ [':', '/', '?', '#'] := by
  simpa [Url.endsAuthority, or_assoc] using Or.inr ends

theorem follows_host_of_cut (rest : Text) (cut : ∀ c ∈ rest.head?, Url.endsAuthority c = true) :
    FollowsHost rest := by
  constructor
  · exact fun c head => ends_authority_sign c (cut c head)
  · rw [Url.take_while_cut rest cut]
    exact List.not_mem_nil

theorem spelled_append_iff (name authority rest : Text)
    (chars : ∀ c ∈ name, Host.isNameChar c = true)
    (cut : ∀ c ∈ rest.head?, Url.endsAuthority c = true) :
    Spelled name (authority ++ rest) ↔
      ∃ middle back, authority = middle ++ back ∧ SpelledAs name middle ∧
        ∀ c ∈ back.head?, isSeparator c = true := by
  induction name generalizing authority with
  | nil =>
      have nothing (middle : Text) : SpelledAs [] middle ↔ middle = [] := List.forall₂_nil_left_iff
      simp only [nothing, Spelled]
      cases authority with
      | nil =>
          refine iff_of_true ?_ ⟨[], [], rfl, rfl, by simp⟩
          cases rest with
          | nil => exact Or.inl rfl
          | cons c r =>
              have sign := follows_host_sign c (ends_authority_sign c (cut c rfl))
              exact Or.inr ⟨c, rfl, sign.1⟩
      | cons c r => simp
  | cons a name ih =>
      have isName := chars a List.mem_cons_self
      have later := fun c member => chars c (List.mem_cons_of_mem a member)
      cases authority with
      | nil =>
          -- the authority is through before the name, and what ends it is of no name
          refine iff_of_false ?_ ?_
          · intro found
            obtain ⟨c, r, written, same, _⟩ := found
            rw [List.nil_append] at written
            have sign := ends_authority_sign c (cut c (by rw [written]; rfl))
            obtain ⟨-, alone, other⟩ := follows_host_sign c sign
            rw [alone, List.mem_singleton] at same
            rw [same, other] at isName
            cases isName
          · intro found
            obtain ⟨middle, back, written, spelled, _⟩ := found
            obtain ⟨rfl, -⟩ := List.nil_eq_append_iff.mp written
            cases spelled
      | cons c r =>
          have onward := ih r later
          simp only [List.cons_append, Spelled]
          constructor
          · intro found
            obtain ⟨d, r', same, folds, spelled⟩ := found
            obtain ⟨rfl, rfl⟩ := List.cons.inj same
            obtain ⟨middle, back, rfl, alike, ends⟩ := onward.mp spelled
            exact ⟨c :: middle, back, rfl, List.Forall₂.cons folds alike, ends⟩
          · intro found
            obtain ⟨middle, back, written, spelled, ends⟩ := found
            cases spelled with
            | cons folds alike =>
                obtain ⟨rfl, rfl⟩ := List.cons.inj written
                exact ⟨c, _, rfl, folds, onward.mpr ⟨_, back, rfl, alike, ends⟩⟩

theorem stands_in_iff (scheme authority rest name : Text)
    (letters : ∀ c ∈ scheme, isAsciiLetter c = true) (some_scheme : scheme ≠ [])
    (plain : ∀ c ∈ authority, c ∉ ['/', '?', '#'])
    (cut : ∀ c ∈ rest.head?, Url.endsAuthority c = true)
    (chars : ∀ c ∈ name, Host.isNameChar c = true) :
    (∃ i, Anchored (scheme ++ "://".toList ++ (authority ++ rest)) .domain i ∧
        Spelled name ((scheme ++ "://".toList ++ (authority ++ rest)).drop i)) ↔
      ∃ front back, StandsIn name authority front back := by
  have start := scheme_ends_at scheme (authority ++ rest) letters some_scheme
  have behind : (scheme ++ "://".toList ++ (authority ++ rest)).drop (scheme.length + 3) =
      authority ++ rest := List.drop_left' (by simp)
  have follows := follows_host_of_cut rest cut
  rw [anchored_domain_iff _ _ start (Spelled name), behind]
  constructor
  · intro found
    rcases found with spelled | ⟨front, back, parts, open_front, spelled⟩
    · obtain ⟨middle, back, rfl, alike, ends⟩ :=
        (spelled_append_iff name authority rest chars cut).mp spelled
      exact ⟨[], back, ⟨middle, rfl, alike⟩, by simp, ends⟩
    · obtain ⟨domain, rfl, front', rfl⟩ :=
        (behind_dot_iff authority rest back plain follows).mp ⟨front, parts, open_front⟩
      obtain ⟨middle, back, rfl, alike, ends⟩ :=
        (spelled_append_iff name domain rest chars cut).mp spelled
      exact ⟨front' ++ ['.'], back, ⟨middle, by simp, alike⟩, by simp, ends⟩
  · rintro ⟨front, back, ⟨middle, rfl, alike⟩, begins, ends⟩
    have spelled : Spelled name (middle ++ back ++ rest) :=
      (spelled_append_iff name (middle ++ back) rest chars cut).mpr ⟨middle, back, rfl, alike, ends⟩
    rcases List.eq_nil_or_concat' front with rfl | ⟨front, c, rfl⟩
    · exact Or.inl spelled
    · obtain rfl : c = '.' := begins c (by simp)
      obtain ⟨before, parts, open_front⟩ :=
        (behind_dot_iff _ rest (middle ++ back ++ rest) plain follows).mpr
          ⟨middle ++ back, rfl, front, by simp⟩
      exact Or.inr ⟨before, _, parts, open_front, spelled⟩

theorem reads_append (t : Text) (front back : List Token) (i j : Nat) :
    Reads t (front ++ back) i j ↔ ∃ k, Reads t front i k ∧ Reads t back k j := by
  induction front generalizing i with
  | nil => simp [Reads]
  | cons token front ih =>
      cases token with
      | anyRun =>
          simp only [List.cons_append, reads_any_run, ih]
          constructor
          · intro found
            obtain ⟨l, run, k, first, second⟩ := found
            exact ⟨k, ⟨l, run, first⟩, second⟩
          · intro found
            obtain ⟨k, ⟨l, run, first⟩, second⟩ := found
            exact ⟨l, run, k, first, second⟩
      | separator =>
          simp only [List.cons_append, Reads, ih]
          constructor
          · intro found
            rcases found with ⟨c, present, ends, k, first, second⟩ | ⟨last, k, first, second⟩
            · exact ⟨k, Or.inl ⟨c, present, ends, first⟩, second⟩
            · exact ⟨k, Or.inr ⟨last, first⟩, second⟩
          · intro found
            obtain ⟨k, found, second⟩ := found
            rcases found with ⟨c, present, ends, first⟩ | ⟨last, first⟩
            · exact Or.inl ⟨c, present, ends, k, first, second⟩
            · exact Or.inr ⟨last, k, first, second⟩
      | char a =>
          simp only [List.cons_append, Reads, ih]
          constructor
          · intro found
            obtain ⟨c, present, same, k, first, second⟩ := found
            exact ⟨k, ⟨c, present, same, first⟩, second⟩
          · intro found
            obtain ⟨k, ⟨c, present, same, first⟩, second⟩ := found
            exact ⟨c, present, same, k, first, second⟩

theorem of_text_domain (name behind : Text) (chars : ∀ c ∈ name, Host.isNameChar c = true) :
    ∃ more atEnd, ofText (hostFilter name ++ behind) =
        { anchor := .domain, body := name.map .char ++ .separator :: more, atEnd } ∧
      (behind = [] → more = [] ∧ atEnd = false) := by
  have tokens : name.map Token.ofChar = name.map .char :=
    List.map_congr_left fun c member => name_char_token c (chars c member)
  have anchored : anchorOf (hostFilter name ++ behind) = (.domain, name ++ '^' :: behind) := by
    simp [hostFilter, anchorOf]
  have separator : Token.ofChar '^' = .separator := rfl
  rcases List.eq_nil_or_concat' behind with rfl | ⟨front, c, rfl⟩
  · rw [List.append_nil, of_text_host name chars]
    exact ⟨[], false, rfl, fun _ => ⟨rfl, rfl⟩⟩
  · rw [ofText, anchored]
    dsimp only
    have parted : name ++ '^' :: (front ++ [c]) = name ++ '^' :: front ++ [c] := by simp
    split
    · rename_i body found
      have same := Text.strip_last_some '|' _ body found
      rw [parted] at same
      obtain ⟨rfl, -⟩ := List.append_inj' same rfl
      refine ⟨front.map .ofChar, true, ?_, by simp⟩
      rw [List.map_append, tokens, List.map_cons, separator]
    · refine ⟨(front ++ [c]).map .ofChar, false, ?_, by simp⟩
      rw [List.map_append, tokens, List.map_cons, separator]

theorem accepts_domain (name behind t : Text) (chars : ∀ c ∈ name, Host.isNameChar c = true) :
    ((ofText (hostFilter name ++ behind)).Accepts t →
        ∃ i, Anchored t .domain i ∧ Spelled name (t.drop i)) ∧
      (behind = [] → (∃ i, Anchored t .domain i ∧ Spelled name (t.drop i)) →
        (ofText (hostFilter name ++ behind)).Accepts t) := by
  obtain ⟨more, atEnd, read, whole⟩ := of_text_domain name behind chars
  have parted : name.map .char ++ .separator :: more = name.map .char ++ [.separator] ++ more := by
    simp
  rw [read, Accepts]
  dsimp only
  rw [parted]
  simp only [reads_append t (name.map .char ++ [.separator]) more]
  constructor
  · intro found
    obtain ⟨i, j, anchored, ⟨k, first, _⟩, _⟩ := found
    exact ⟨i, anchored, (reads_name t name i (anchored_inside t i anchored)).mp ⟨k, first⟩⟩
  · intro alone stands
    obtain ⟨i, anchored, spelled⟩ := stands
    obtain ⟨rfl, rfl⟩ := whole alone
    obtain ⟨k, first⟩ := (reads_name t name i (anchored_inside t i anchored)).mpr spelled
    exact ⟨i, k, anchored, ⟨k, first, rfl⟩, by simp⟩

theorem same_case_ascii (c a : Char) (ascii : c.toNat < 128) (small : c.toLower = c)
    (nameChar : Host.isNameChar a = true) (small' : a.toLower = a) (same : a ∈ sameCase c) :
    c = a := by
  by_cases isName : Host.isNameChar c = true
  · exact (same_case_small c a isName small nameChar small' same).symm
  · have other : isAsciiLetter c = false := by
      rw [Bool.eq_false_iff]
      intro letter
      exact isName (by simp [Host.isNameChar, letter])
    rw [sameCase, if_pos ascii, asciiSameCase, other] at same
    exact (List.mem_singleton.mp same).symm

theorem spelled_as_small (name text : Text) (small : Host.IsSmallName name)
    (smallText : ∀ c ∈ text, c.toNat < 128 ∧ c.toLower = c) (spelled : SpelledAs name text) :
    text = name := by
  induction spelled with
  | nil => rfl
  | @cons a c name text same _ ih =>
      obtain ⟨isName, isSmall⟩ := small a List.mem_cons_self
      obtain ⟨ascii, isSmall'⟩ := smallText c List.mem_cons_self
      rw [same_case_ascii c a ascii isSmall' isName isSmall same,
        ih (fun d member => small d (List.mem_cons_of_mem a member))
          (fun d member => smallText d (List.mem_cons_of_mem c member))]

end Wildcard

namespace Url

/-- A host without separators, and after it no dot. -/
structure IsPlain (hostAndPort : Text) : Prop where
  host : ∀ c ∈ hostAndPort.takeWhile (· != ':'), Wildcard.isSeparator c = false
  port : '.' ∉ hostAndPort.dropWhile (· != ':')

theorem without_port_of_plain (rest : Text) (plain : IsPlain rest) :
    withoutPort? rest = some (rest.takeWhile (· != ':')) := by
  apply without_port_plain
  rintro inner rfl
  have separates := plain.host '[' (by simp)
  revert separates
  decide +kernel

theorem host_of_plain (front name back : Text) (noColon : ':' ∉ name)
    (begins : ∀ c ∈ front.getLast?, c = '.')
    (ends : ∀ c ∈ back.head?, Wildcard.isSeparator c = true)
    (plain : IsPlain (front ++ name ++ back)) :
    (front ++ name ++ back).takeWhile (· != ':') = front ++ name := by
  have goesOn (s : Text) (absent : ':' ∉ s) : ∀ c ∈ s, (c != ':') = true := by
    intro c member
    rw [bne_iff_ne]
    exact fun same => absent (same ▸ member)
  -- a colon in front of the dot would leave the dot to the port
  have beforePort : ':' ∉ front := by
    intro colon
    obtain ⟨host, port, rfl, absent⟩ := List.eq_append_cons_of_mem colon
    have dot : (':' :: port).getLast? = some '.' := by
      cases last : (':' :: port).getLast? with
      | none => simp at last
      | some c => rw [begins c (by simp [List.getLast?_append, last])]
    apply plain.port
    rw [List.append_assoc, List.append_assoc, List.dropWhile_append_of_pos (goesOn host absent)]
    simp only [List.cons_append, List.dropWhile_cons, bne_self_eq_false, Bool.false_eq_true,
      if_false]
    exact List.mem_append_left _ (List.mem_of_getLast? dot)
  have whole : (front ++ name ++ back).takeWhile (· != ':') =
      front ++ name ++ back.takeWhile (· != ':') :=
    List.takeWhile_append_of_pos (goesOn (front ++ name) (by simp [beforePort, noColon]))
  rw [whole]
  cases back with
  | nil => simp
  | cons c r =>
      by_cases colon : c = ':'
      · simp [colon]
      · have here : c ∈ (front ++ name ++ c :: r).takeWhile (· != ':') := by
          rw [whole]
          simp [colon]
        cases (plain.host c here).symm.trans (ends c rfl)

theorem under_of_begins (front name : Text) (begins : ∀ c ∈ front.getLast?, c = '.') :
    Host.IsUnder (front ++ name) name := by
  rcases List.eq_nil_or_concat' front with rfl | ⟨labels, c, rfl⟩
  · exact Or.inl rfl
  · obtain rfl := begins c (by simp)
    exact Or.inr ⟨labels, by simp⟩

theorem host_and_port_append (front name back : Text) (noUser : '@' ∉ name ++ back)
    (begins : ∀ c ∈ front.getLast?, c = '.') :
    ∃ labels, hostAndPort (front ++ name ++ back) = labels ++ name ++ back ∧
      ∀ c ∈ labels.getLast?, c = '.' := by
  by_cases user : '@' ∈ front
  · obtain ⟨userName, labels, rfl, absent⟩ := Text.exists_last_cut '@' front user
    refine ⟨labels, ?_, ?_⟩
    · have parted : userName ++ '@' :: labels ++ name ++ back =
          userName ++ '@' :: (labels ++ name ++ back) := by simp
      have cut := Text.split_last_append '@' userName (labels ++ name ++ back) (by
        simpa [absent] using noUser)
      rw [parted, hostAndPort, cut, Option.elim_some]
    · intro c last
      exact begins c (by simp [List.getLast?_append, List.getLast?_cons, Option.mem_def.mp last])
  · have cut := Text.split_last_none '@' (front ++ name ++ back) (by simpa [user] using noUser)
    exact ⟨front, by rw [hostAndPort, cut, Option.elim_none], begins⟩

theorem is_plain_lower (rest : Text) (plain : IsPlain rest) : IsPlain rest.asciiLower := by
  have separates (c : Char) : Wildcard.isSeparator c.toLower = Wildcard.isSeparator c :=
    of_capitals (p := fun c d => Wildcard.isSeparator d = Wildcard.isSeparator c) (fun _ => rfl)
      (by decide +kernel) c
  constructor
  · intro c member
    rw [Text.take_while_lower rest _ colon_lower] at member
    obtain ⟨d, among, rfl⟩ := List.mem_map.mp member
    rw [separates]
    exact plain.host d among
  · have same : ((· != ':') ∘ Char.toLower) = (· != ':') := funext colon_lower
    rw [Text.asciiLower, List.dropWhile_map, same]
    intro member
    obtain ⟨d, among, dot⟩ := List.mem_map.mp member
    rw [to_lower_eq_iff d '.' (by decide)] at dot
    exact plain.port (dot ▸ among)

theorem lower_append (scheme rest : Text) (letters : ∀ c ∈ scheme, isAsciiLetter c = true) :
    ∃ before, (scheme ++ "://".toList ++ rest).lower =
      scheme.asciiLower ++ "://".toList ++ Text.lowerFrom before rest := by
  have ascii : ∀ c ∈ scheme ++ "://".toList, c.toNat < 128 := by
    intro c member
    rcases List.mem_append.mp member with inScheme | sign
    · exact Host.name_char_ascii c (by simp [Host.isNameChar, letters c inScheme])
    · have low : "://".toList.all (fun d => decide (d.toNat < 128)) = true := by decide
      exact of_decide_eq_true (List.all_eq_true.mp low c sign)
  have signs : Text.asciiLower "://".toList = "://".toList := rfl
  refine ⟨(scheme ++ "://".toList).reverse ++ [], ?_⟩
  rw [Text.lower, Text.lower_from_ascii [] _ rest ascii]
  conv => rhs; rw [← signs]
  simp [Text.asciiLower]

theorem within_authority (rest : Text) (c : Char) (member : c ∈ rest.takeWhile (!endsAuthority ·)) :
    c ∉ ['/', '?', '#'] := by
  have goes := List.mem_takeWhile_imp member
  simpa [endsAuthority, and_assoc] using goes

theorem behind_authority (rest : Text) :
    ∀ c ∈ (rest.dropWhile (!endsAuthority ·)).head?, endsAuthority c = true := by
  intro c head
  have none_left := List.head?_dropWhile_not (!endsAuthority ·) rest
  rw [Option.mem_def.mp head] at none_left
  simpa using none_left

theorem lower_authority (before rest : Text)
    (ascii : ∀ c ∈ rest.takeWhile (!endsAuthority ·), c.toNat < 128) :
    (Text.lowerFrom before rest).takeWhile (!endsAuthority ·) =
      Text.asciiLower (rest.takeWhile (!endsAuthority ·)) := by
  have lowered := Text.lower_from_ascii before _ (rest.dropWhile (!endsAuthority ·)) ascii
  have tail := Text.lower_tail ((rest.takeWhile (!endsAuthority ·)).reverse ++ before) _
    (behind_authority rest)
  have within : ∀ c ∈ Text.asciiLower (rest.takeWhile (!endsAuthority ·)),
      (!endsAuthority c) = true := by
    intro c member
    obtain ⟨d, among, rfl⟩ := List.mem_map.mp member
    have goes := List.mem_takeWhile_imp among
    rwa [ends_authority_lower]
  rw [List.takeWhile_append_dropWhile] at lowered
  rw [lowered, List.takeWhile_append_of_pos within, take_while_cut _ tail, List.append_nil]

end Url

namespace Wildcard

/-- The authority holds the name of a site in the host alone, which is written plainly, and in ASCII
characters. -/
structure IsOrdinary (name authority : Text) : Prop where
  ascii : ∀ c ∈ authority, c.toNat < 128
  plain : Url.IsPlain (Url.hostAndPort authority)
  user : ∀ front back, StandsIn name authority.asciiLower front back → '@' ∉ back

theorem small_ascii (c : Char) (ascii : c.toNat < 128) :
    c.toLower.toNat < 128 ∧ c.toLower.toLower = c.toLower := by
  have checked : ∀ n < 128, (Char.ofNat n).toLower.toNat < 128 ∧
      (Char.ofNat n).toLower.toLower = (Char.ofNat n).toLower := by decide
  have here := checked c.toNat ascii
  rwa [Char.ofNat_toNat] at here

/-- The host of an ordinary authority that a domain stands in lies under the domain. -/
theorem under_of_stands (name authority front back : Text)
    (canonical : Host.normalize? name = some name) (ordinary : IsOrdinary name authority)
    (stands : StandsIn name authority.asciiLower front back) :
    ∃ host, Url.withoutPort? (Url.hostAndPort authority) = some host ∧
      Host.IsUnder (Host.lookupForm host) name := by
  have noUser := ordinary.user front back stands
  have small := Host.small_name_of_normalize name name canonical
  have plainName := fun c member => Host.name_char_plain c (small c member).1
  obtain ⟨⟨middle, whole, spelled⟩, begins, ends⟩ := stands
  have same : middle = name := by
    refine spelled_as_small name middle small ?_ spelled
    intro c member
    have among : c ∈ authority.asciiLower := by
      rw [whole]
      simp [member]
    obtain ⟨d, inAuthority, rfl⟩ := List.mem_map.mp among
    exact small_ascii d (ordinary.ascii d inAuthority)
  subst same
  obtain ⟨labels, cut, behind⟩ := Url.host_and_port_append front middle back (by
    intro sign
    rcases List.mem_append.mp sign with inName | after
    · exact plainName '@' inName (by simp)
    · exact noUser after) begins
  have lowered : (Url.hostAndPort authority).asciiLower = labels ++ middle ++ back := by
    rw [← Url.host_and_port_lower, whole, cut]
  have plain := Url.is_plain_lower _ ordinary.plain
  rw [lowered] at plain
  have host := Url.host_of_plain labels middle back (fun colon => plainName ':' colon (by simp))
    behind ends plain
  have lowerHost : Text.asciiLower ((Url.hostAndPort authority).takeWhile (· != ':')) =
      labels ++ middle := by
    rw [← Text.take_while_lower _ _ Url.colon_lower, lowered, host]
  refine ⟨_, Url.without_port_of_plain _ ordinary.plain, ?_⟩
  have rootless : (labels ++ middle).dropEndWhile (· == '.') = labels ++ middle := by
    apply Text.drop_end_while_eq
    intro c last
    rw [List.getLast?_append_of_ne_nil labels (Host.normalize_ne_nil _ _ canonical)] at last
    rw [beq_eq_false_iff_ne]
    exact fun dot => Host.rootless_of_normalize _ _ canonical (dot ▸ last)
  rw [Host.lookupForm, lowerHost, rootless]
  exact Url.under_of_begins labels middle behind

/-- Where a filter on a domain, whatever comes behind it, is found in a web address, the authority
holds the domain; and the domain alone is found wherever the authority holds it. If the authority is
ordinary the host of the address is then the domain or lies under it. -/
theorem domain_filter_keeps_to_site (name behind : Text)
    (canonical : Host.normalize? name = some name) (p : Pattern)
    (compiled : Pattern.compile (hostFilter name ++ behind) = .ok p) (q : Request)
    (web : q.scheme? = some .http ∨ q.scheme? = some .https) :
    (∃ authority, Url.authority? q.lowerUrl = some authority ∧
        (p.occursIn q.lowerUrl = true → ∃ front back, StandsIn name authority front back) ∧
        (behind = [] → (∃ front back, StandsIn name authority front back) →
          p.occursIn q.lowerUrl = true)) ∧
      ∃ authority, Url.authority? q.url = some authority ∧
        (IsOrdinary name authority → p.occursIn q.lowerUrl = true →
          Host.IsUnder (Host.lookupForm q.host) name) := by
  obtain ⟨scheme, rest, parts, isWeb⟩ := Url.web_parts q.url web
  have isWebLower : scheme.asciiLower.asciiLower = "http".toList ∨
      scheme.asciiLower.asciiLower = "https".toList := by
    rwa [Text.ascii_lower_again]
  have letters := Url.web_scheme_letters scheme isWeb
  have small := Url.web_scheme_letters scheme.asciiLower isWebLower
  have some_scheme : scheme.asciiLower ≠ [] := by
    rcases isWeb with http | https
    · simp [http]
    · simp [https]
  have chars := fun c member => (Host.small_name_of_normalize name name canonical c member).1
  obtain ⟨before, lowered⟩ := Url.lower_append scheme rest letters
  rw [← parts, ← q.lowerUrl_eq] at lowered
  have stands := stands_in_iff scheme.asciiLower
    ((Text.lowerFrom before rest).takeWhile (!Url.endsAuthority ·))
    ((Text.lowerFrom before rest).dropWhile (!Url.endsAuthority ·)) name small some_scheme
    (Url.within_authority _) (Url.behind_authority _) chars
  rw [List.takeWhile_append_dropWhile, ← lowered] at stands
  obtain ⟨only, alone⟩ := accepts_domain name behind q.lowerUrl chars
  rw [← Pattern.occurs_in_wildcard _ rfl p compiled, stands] at only alone
  have authority := Url.authority_append scheme rest letters
  have authorityLower := Url.authority_append scheme.asciiLower (Text.lowerFrom before rest) small
  rw [← parts] at authority
  rw [← lowered] at authorityLower
  refine ⟨⟨_, authorityLower, only, alone⟩, _, authority, ?_⟩
  intro ordinary occurs
  obtain ⟨front, back, inLower⟩ := only occurs
  rw [Url.lower_authority before rest ordinary.ascii] at inLower
  obtain ⟨host, found, under⟩ := under_of_stands name _ front back canonical ordinary inLower
  have isHost : q.host = host := by
    rw [Request.host, Url.host_eq, authority, Option.bind_some, found, Option.getD_some]
  rwa [isHost]

def visit (url : Text) : Request := .of url [] [] []

/-- The filter on a domain is found in an address of a host under it. It is found on other sites
too: where the domain is the user name, has a separator behind it in the host, or stands in the
port. -/
theorem domain_on_other_sites :
    ∃ p, Pattern.compile "||example.com^".toList = .ok p ∧
      p.occursIn (visit "http://WWW.Example.com:80/ads".toList).lowerUrl = true ∧
      Host.IsUnder (Host.lookupForm (visit "http://WWW.Example.com:80/ads".toList).host)
        "example.com".toList ∧
      ∀ url ∈ ["http://example.com@evil.example/".toList,
          "http://example.com!.evil.example/".toList, "http://evil.example:x.example.com/".toList],
        p.occursIn (visit url).lowerUrl = true ∧
          ¬ Host.IsUnder (Host.lookupForm (visit url).host) "example.com".toList := by
  have compiles : ∃ p, Pattern.compile "||example.com^".toList = .ok p ∧
      ["http://WWW.Example.com:80/ads".toList, "http://example.com@evil.example/".toList,
        "http://example.com!.evil.example/".toList, "http://evil.example:x.example.com/".toList].all
          (fun url => p.occursIn (visit url).lowerUrl) = true :=
    ⟨_, Pattern.compile_small _ rfl (by decide), by decide +kernel⟩
  obtain ⟨p, compiled, all⟩ := compiles
  have found := List.all_eq_true.mp all
  obtain ⟨-, authority, cut, under⟩ := domain_filter_keeps_to_site "example.com".toList []
    (by decide) p compiled (visit "http://WWW.Example.com:80/ads".toList) (by decide)
  have ordinary : IsOrdinary "example.com".toList authority := by
    have written : Url.authority? "http://WWW.Example.com:80/ads".toList =
        some "WWW.Example.com:80".toList := by decide
    obtain rfl := Option.some.inj (written.symm.trans cut)
    have host : (Url.hostAndPort "WWW.Example.com:80".toList).takeWhile (· != ':') =
        "WWW.Example.com".toList := by decide
    have plain : "WWW.Example.com".toList.all (isSeparator · == false) = true := by decide +kernel
    refine ⟨by simp, ⟨?_, by decide⟩, ?_⟩
    · intro c member
      rw [host] at member
      exact eq_of_beq (List.all_eq_true.mp plain c member)
    intro front back stands user
    obtain ⟨⟨middle, whole, -⟩, -, -⟩ := stands
    have among : '@' ∈ Text.asciiLower "WWW.Example.com:80".toList := by
      rw [whole]
      exact List.mem_append_right _ user
    revert among
    decide
  refine ⟨p, compiled, found _ (by simp), under ordinary (found _ (by simp)), ?_⟩
  intro url other
  refine ⟨found url (List.mem_cons_of_mem _ other), ?_⟩
  revert url
  decide

end Wildcard

end ContentFilter
