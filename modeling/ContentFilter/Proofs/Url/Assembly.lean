import ContentFilter.Proofs.Url.Parts

namespace ContentFilter.Url

section Scheme

variable (name rest : Text) (scheme : Scheme)
  (known : (name.asciiLower, scheme) ∈ Scheme.hierarchical)

include known

theorem scheme_name_letters : ∀ c ∈ name, isAsciiLetter c = true := by
  intro c member
  have kept : isAsciiLetter c.toLower = isAsciiLetter c :=
    of_capitals (p := fun c d => isAsciiLetter d = isAsciiLetter c) (fun _ => rfl) (by decide) c
  have letters : ∀ entry ∈ Scheme.hierarchical, entry.1.all isAsciiLetter = true := by decide
  rw [← kept]
  exact List.all_eq_true.mp (letters _ known) c.toLower (List.mem_map_of_mem member)

theorem no_colon_in_scheme : ':' ∉ name := by
  intro member
  have letter := scheme_name_letters name scheme known ':' member
  cases letter

theorem scheme_append : scheme? (name ++ "://".toList ++ rest) = some scheme := by
  have split := Text.split_once_append name ('/' :: '/' :: rest) [] ':'
    (no_colon_in_scheme name scheme known)
  have whole : name ++ "://".toList ++ rest = name ++ [':'] ++ '/' :: '/' :: rest := by simp
  have other : name.equalIgnoringCase "data".toList = false := by
    have differs : ∀ entry ∈ Scheme.hierarchical,
        entry.1.equalIgnoringCase "data".toList = false := by decide
    rw [← Text.equal_ignoring_case_lower]
    exact differs _ known
  have found : (Scheme.hierarchical.find? fun entry => name.equalIgnoringCase entry.1) =
      some (name.asciiLower, scheme) := by
    have first : ∀ entry ∈ Scheme.hierarchical,
        (Scheme.hierarchical.find? fun other => entry.1.equalIgnoringCase other.1) =
          some entry := by decide
    simp only [← Text.equal_ignoring_case_lower name]
    exact first _ known
  rw [scheme?, whole, split]
  dsimp only
  rw [other, found]
  simp

end Scheme

theorem authority_append (scheme rest : Text) (letters : ∀ c ∈ scheme, isAsciiLetter c = true) :
    authority? (scheme ++ "://".toList ++ rest) = some (rest.takeWhile (!endsAuthority ·)) := by
  have colon : ':' ∉ scheme := fun member => absurd (letters ':' member) (by decide)
  have split := Text.split_once_append scheme rest ['/', '/'] ':' colon
  rw [authority?]
  change ((Text.splitOnce (scheme ++ [':', '/', '/'] ++ rest) [':', '/', '/']).map _) = _
  rw [split, Option.map_some]

theorem take_while_cut (tail : Text) (cut : ∀ c ∈ tail.head?, endsAuthority c = true) :
    tail.takeWhile (!endsAuthority ·) = [] := by
  cases tail with
  | nil => rfl
  | cons c r => simp [cut c rfl]

theorem ends_authority_iff (c : Char) : endsAuthority c = true ↔ c ∈ ['/', '?', '#'] := by
  simp [endsAuthority, or_assoc]

theorem authority_before (front tail : Text) (within : ∀ c ∈ front, c ∉ ['/', '?', '#'])
    (cut : ∀ c ∈ tail.head?, c ∈ ['/', '?', '#']) :
    (front ++ tail).takeWhile (!endsAuthority ·) = front := by
  have goes : ∀ c ∈ front, (!endsAuthority c) = true := by
    intro c member
    rw [Bool.not_eq_true', Bool.eq_false_iff, ne_eq, ends_authority_iff]
    exact within c member
  have stops : ∀ c ∈ tail.head?, endsAuthority c = true := by
    intro c head
    exact (ends_authority_iff c).mpr (cut c head)
  rw [List.takeWhile_append_of_pos goes, take_while_cut tail stops, List.append_nil]

inductive WrittenHost
  | name (host : Text)
  | bracketed (address : Text)
  deriving DecidableEq, Repr

namespace WrittenHost

def text : WrittenHost → Text
  | name host => host
  | bracketed address => '[' :: address ++ [']']

def bare : WrittenHost → Text
  | name host => host
  | bracketed address => address

/-- A name has no sign that stands before or behind it, and does not open a bracket. In brackets
colons may stand, and only the closing bracket may not. -/
def IsSound : WrittenHost → Prop
  | name host => (∀ c ∈ host, c ∉ ['/', '?', '#', '@', ':']) ∧ host.head? ≠ some '['
  | bracketed address => ∀ c ∈ address, c ∉ [']', '/', '?', '#', '@']

theorem text_plain (host : WrittenHost) (sound : host.IsSound) :
    ∀ c ∈ host.text, c ∉ ['/', '?', '#', '@'] := by
  cases host with
  | name host =>
      intro c member
      have plain := sound.1 c member
      simp_all
  | bracketed address =>
      intro c member
      rw [text, List.mem_append, List.mem_cons, List.mem_singleton] at member
      rcases member with (rfl | within) | rfl
      · decide
      · have plain := sound c within
        simp_all
      · decide

theorem without_port_host (host : WrittenHost) (sound : host.IsSound) (rest : Text)
    (begins : ∀ c ∈ rest.head?, c = ':') : withoutPort? (host.text ++ rest) = some host.bare := by
  cases host with
  | name host =>
      have noBracket : ∀ inner, host ++ rest ≠ '[' :: inner := by
        intro inner same
        have head := congrArg List.head? same
        rw [List.head?_append, List.head?_cons] at head
        cases first : host.head? with
        | none =>
            rw [first, Option.none_or] at head
            exact absurd (begins '[' head) (by decide)
        | some c =>
            rw [first, Option.some_or] at head
            exact sound.2 (first.trans head)
      have goes : ∀ c ∈ host, (c != ':') = true := by
        intro c member
        have plain := sound.1 c member
        simp_all
      have stops : rest.takeWhile (· != ':') = [] := by
        cases rest with
        | nil => rfl
        | cons c r => simp [begins c rfl]
      rw [text, without_port_plain _ noBracket, List.takeWhile_append_of_pos goes, stops,
        List.append_nil, bare]
  | bracketed address =>
      have noBracket : ']' ∉ address := fun member => sound ']' member (by decide)
      have split := Text.split_once_append address rest [] ']' noBracket
      have whole : text (bracketed address) ++ rest = '[' :: (address ++ [']'] ++ rest) := rfl
      rw [whole, withoutPort?, split, Option.map_some, bare]

end WrittenHost

/-- An address in the parts that it is written with. A user name may have any sign that does not
end the authority, at signs too; a port any but at signs. -/
structure Address where
  scheme : Scheme
  /-- The name of the scheme, in any case. -/
  schemeName : Text
  user : Option Text
  host : WrittenHost
  port : Option Text
  /-- The path, the query and the fragment. -/
  tail : Text
  known : (schemeName.asciiLower, scheme) ∈ Scheme.hierarchical
  userChars : ∀ name ∈ user, ∀ c ∈ name, c ∉ ['/', '?', '#']
  sound : host.IsSound
  portChars : ∀ digits ∈ port, ∀ c ∈ digits, c ∉ ['/', '?', '#', '@']
  cut : ∀ c ∈ tail.head?, c ∈ ['/', '?', '#']

namespace Address

variable (a : Address)

def userText : Text := a.user.elim [] (· ++ ['@'])

def portText : Text := a.port.elim [] (':' :: ·)

def authority : Text := a.userText ++ (a.host.text ++ a.portText)

def text : Text := a.schemeName ++ "://".toList ++ (a.authority ++ a.tail)

theorem user_chars : ∀ c ∈ a.userText, c ∉ ['/', '?', '#'] := by
  intro c member
  rw [userText] at member
  cases given : a.user with
  | none => simp [given] at member
  | some name =>
      rw [given, Option.elim_some, List.mem_append, List.mem_singleton] at member
      rcases member with within | rfl
      · exact a.userChars name given c within
      · decide

theorem port_chars : ∀ c ∈ a.portText, c ∉ ['/', '?', '#', '@'] := by
  intro c member
  rw [portText] at member
  cases given : a.port with
  | none => simp [given] at member
  | some digits =>
      rw [given, Option.elim_some, List.mem_cons] at member
      rcases member with rfl | within
      · decide
      · exact a.portChars digits given c within

theorem port_head : ∀ c ∈ a.portText.head?, c = ':' := by
  intro c head
  rw [portText] at head
  cases given : a.port with
  | none => simp [given] at head
  | some digits => simpa [given, eq_comm] using head

theorem behind_user : ∀ c ∈ a.host.text ++ a.portText, c ∉ ['/', '?', '#', '@'] := by
  intro c member
  rcases List.mem_append.mp member with inHost | inPort
  · exact a.host.text_plain a.sound c inHost
  · exact port_chars a c inPort

theorem authority_text : authority? a.text = some a.authority := by
  have within : ∀ c ∈ a.authority, c ∉ ['/', '?', '#'] := by
    intro c member
    rcases List.mem_append.mp member with inUser | behind
    · exact user_chars a c inUser
    · have plain := behind_user a c behind
      simp_all
  rw [text, authority_append a.schemeName _ (scheme_name_letters a.schemeName a.scheme a.known),
    authority_before a.authority a.tail within a.cut]

theorem host_and_port_authority : hostAndPort a.authority = a.host.text ++ a.portText := by
  have noAt : '@' ∉ a.host.text ++ a.portText :=
    fun member => behind_user a '@' member (by decide)
  rw [hostAndPort, authority, userText]
  cases a.user with
  | none =>
      rw [Option.elim_none, List.nil_append, Text.split_last_none '@' _ noAt, Option.elim_none]
  | some name =>
      rw [Option.elim_some, List.append_assoc, List.singleton_append,
        Text.split_last_append '@' name _ noAt, Option.elim_some]

theorem host_text : host? a.text = some a.host.bare := by
  rw [host_eq, authority_text, Option.bind_some, host_and_port_authority]
  exact a.host.without_port_host a.sound a.portText (port_head a)

/-- From an address that was put together its scheme and its host are read back. -/
theorem parts_read_back : scheme? a.text = some a.scheme ∧ host? a.text = some a.host.bare :=
  ⟨scheme_append a.schemeName _ a.scheme a.known, host_text a⟩

def crowded : Address where
  scheme := .wss
  schemeName := "wSS".toList
  user := some "a:b@[".toList
  host := .name "x].Y".toList
  port := some "8:[x]".toList
  tail := "?://u@d:2/#".toList
  known := by decide
  userChars := by simp
  sound := by simp [WrittenHost.IsSound]
  portChars := by simp
  cut := by simp

def crowdedInBrackets : Address :=
  { crowded with
    host := .bracketed "[f::1".toList
    sound := by simp [WrittenHost.IsSound] }

theorem crowded_read_back :
    crowded.text = "wSS://a:b@[@x].Y:8:[x]?://u@d:2/#".toList ∧
      scheme? crowded.text = some .wss ∧ host? crowded.text = some "x].Y".toList ∧
      crowdedInBrackets.text = "wSS://a:b@[@[[f::1]:8:[x]?://u@d:2/#".toList ∧
      host? crowdedInBrackets.text = some "[f::1".toList := by
  obtain ⟨scheme, host⟩ := parts_read_back crowded
  obtain ⟨-, inBrackets⟩ := parts_read_back crowdedInBrackets
  exact ⟨rfl, scheme, host, rfl, inBrackets⟩

end Address

end ContentFilter.Url
