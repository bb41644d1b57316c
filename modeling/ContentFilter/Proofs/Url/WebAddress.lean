import ContentFilter.Request
import ContentFilter.Proofs.Host.Names
import ContentFilter.Proofs.Url.Assembly

namespace ContentFilter

namespace Text

theorem lower_from_ascii (before front back : Text) (ascii : ∀ c ∈ front, c.toNat < 128) :
    lowerFrom before (front ++ back) =
      front.asciiLower ++ lowerFrom (front.reverse ++ before) back := by
  induction front generalizing before with
  | nil => rfl
  | cons c front ih =>
      have low : c.toNat < 128 := ascii c List.mem_cons_self
      have plain : c ≠ 'Σ' := by
        rintro rfl
        exact absurd low (by decide)
      have later := ih (c :: before) fun d member => ascii d (List.mem_cons_of_mem c member)
      rw [List.cons_append, lowerFrom, if_neg plain, Unicode.lowerChar, if_pos low, later]
      simp [asciiLower]

theorem lower_tail (before tail : Text) (cut : ∀ c ∈ tail.head?, Url.endsAuthority c = true) :
    ∀ c ∈ (lowerFrom before tail).head?, Url.endsAuthority c = true := by
  intro c head
  cases tail with
  | nil => cases head
  | cons d r =>
      have ends := cut d rfl
      have sign : d.toNat < 128 ∧ d.toLower = d := by
        simp only [Url.endsAuthority, Bool.or_eq_true, beq_iff_eq] at ends
        rcases ends with (rfl | rfl) | rfl <;> decide
      have first := lower_from_ascii before [d] r fun e alone => by
        rw [List.mem_singleton.mp alone]
        exact sign.1
      rw [← List.singleton_append, first, asciiLower] at head
      simp only [List.map_cons, List.map_nil, List.singleton_append, List.head?_cons, sign.2]
        at head
      rwa [← Option.some.inj head]

end Text

namespace Url

def webScheme (name : Text) : Scheme := if name.asciiLower = "http".toList then .http else .https

theorem web_scheme_known (name : Text)
    (isWeb : name.asciiLower = "http".toList ∨ name.asciiLower = "https".toList) :
    (name.asciiLower, webScheme name) ∈ Scheme.hierarchical := by
  rcases isWeb with http | https
  · rw [webScheme, if_pos http, http]
    decide
  · rw [webScheme, https, if_neg (by decide)]
    decide

theorem web_scheme_letters (scheme : Text)
    (isWeb : scheme.asciiLower = "http".toList ∨ scheme.asciiLower = "https".toList) (c : Char)
    (member : c ∈ scheme) : isAsciiLetter c = true :=
  scheme_name_letters scheme (webScheme scheme) (web_scheme_known scheme isWeb) c member

end Url

structure WebAddress where
  scheme : Text
  host : Text
  port : Option Text
  /-- The path, the query and the fragment. -/
  tail : Text
  isWeb : scheme.asciiLower = "http".toList ∨ scheme.asciiLower = "https".toList
  named : host ≠ []
  nameChars : ∀ c ∈ host, Host.isNameChar c = true
  rootless : host.getLast? ≠ some '.'
  digits : ∀ digits ∈ port, ∀ c ∈ digits, isAsciiDigit c = true
  cut : ∀ c ∈ tail.head?, Url.endsAuthority c = true

/-- What can follow the host: nothing, a port, or the end of the authority; and no dot comes before
that end. -/
structure FollowsHost (rest : Text) : Prop where
  head : ∀ c ∈ rest.head?, c ∈ [':', '/', '?', '#']
  dotless : '.' ∉ rest.takeWhile (!Url.endsAuthority ·)

namespace WebAddress

variable (a : WebAddress)

def portText : Text := a.port.elim [] (':' :: ·)

def text : Text := a.scheme ++ "://".toList ++ (a.host ++ a.portText ++ a.tail)

theorem scheme_letters (c : Char) (member : c ∈ a.scheme) : isAsciiLetter c = true :=
  Url.web_scheme_letters a.scheme a.isWeb c member

theorem scheme_name_char (c : Char) (member : c ∈ a.scheme) : Host.isNameChar c = true := by
  simp [Host.isNameChar, scheme_letters a c member]

theorem digit_plain (d : Char) (isDigit : isAsciiDigit d = true) :
    d.toNat < 128 ∧ d.toLower = d ∧ d ∉ ['/', '?', '#', '@', '.'] := by
  have nameChar : Host.isNameChar d = true := by simp [Host.isNameChar, isDigit]
  revert isDigit
  revert nameChar d
  exact Host.of_name_chars (by decide)

theorem port_chars (c : Char) (member : c ∈ a.portText) :
    c.toNat < 128 ∧ c.toLower = c ∧ c ∉ ['/', '?', '#', '@', '.'] := by
  rw [portText] at member
  cases given : a.port with
  | none => simp [given] at member
  | some digits =>
      rw [given, Option.elim_some] at member
      rcases List.mem_cons.mp member with rfl | among
      · decide
      · exact digit_plain c (a.digits digits given c among)

theorem sound_name : (Url.WrittenHost.name a.host).IsSound := by
  constructor
  · intro c member
    have plain := Host.name_char_plain c (a.nameChars c member)
    simp_all
  · intro head
    exact Host.name_char_plain '[' (a.nameChars '[' (List.mem_of_mem_head? head)) (by simp)

def address : Url.Address where
  scheme := Url.webScheme a.scheme
  schemeName := a.scheme
  user := none
  host := .name a.host
  port := a.port
  tail := a.tail
  known := Url.web_scheme_known a.scheme a.isWeb
  userChars := by simp
  sound := sound_name a
  portChars := by
    intro digits given c member
    have plain := (digit_plain c (a.digits digits given c member)).2.2
    simp_all
  cut c head := (Url.ends_authority_iff c).mp (a.cut c head)

theorem host_text : Url.host? a.text = some a.host := a.address.host_text

theorem lookup_host : Host.lookupForm a.host = a.host.asciiLower :=
  Host.lookup_form_rootless a.host a.rootless

theorem follows_host (rest : Text) (ends : ∀ c ∈ rest.head?, Url.endsAuthority c = true) :
    FollowsHost (a.portText ++ rest) := by
  constructor
  · intro c head
    rw [List.head?_append] at head
    cases first : a.portText.head? with
    | none =>
        rw [first, Option.none_or] at head
        have sign := ends c head
        simpa [Url.endsAuthority, or_assoc] using Or.inr sign
    | some d =>
        rw [first, Option.some_or] at head
        obtain rfl := Option.some.inj head
        simp [a.address.port_head d first]
  · have within : ∀ c ∈ a.portText, (!Url.endsAuthority c) = true := by
      intro c member
      have plain := (port_chars a c member).2.2
      simp_all [Url.endsAuthority]
    rw [List.takeWhile_append_of_pos within, Url.take_while_cut rest ends, List.append_nil]
    exact fun dot => (port_chars a '.' dot).2.2 (by simp)

theorem lower_text : ∃ rest, FollowsHost rest ∧
    a.text.lower = a.scheme.asciiLower ++ "://".toList ++ (a.host.asciiLower ++ rest) := by
  have ascii : ∀ c ∈ a.scheme ++ "://".toList ++ (a.host ++ a.portText), c.toNat < 128 := by
    intro c member
    rcases List.mem_append.mp member with front | authority
    · rcases List.mem_append.mp front with inScheme | sign
      · exact Host.name_char_ascii c (scheme_name_char a c inScheme)
      · have low : "://".toList.all (fun d => decide (d.toNat < 128)) = true := by decide
        exact of_decide_eq_true (List.all_eq_true.mp low c sign)
    · rcases List.mem_append.mp authority with inHost | inPort
      · exact Host.name_char_ascii c (a.nameChars c inHost)
      · exact (port_chars a c inPort).1
  have port : a.portText.asciiLower = a.portText := by
    rw [Text.asciiLower, List.map_congr_left fun c member => (port_chars a c member).2.1]
    exact List.map_id a.portText
  have written : a.text = a.scheme ++ "://".toList ++ (a.host ++ a.portText) ++ a.tail := by
    simp [text]
  have lowered := Text.lower_from_ascii [] _ a.tail ascii
  generalize (a.scheme ++ "://".toList ++ (a.host ++ a.portText)).reverse ++ [] = before at lowered
  refine ⟨_, follows_host a _ (Text.lower_tail before a.tail a.cut), ?_⟩
  rw [Text.lower, written, lowered]
  simp only [Text.asciiLower, List.map_append, List.append_assoc] at port ⊢
  rw [port]
  rfl

end WebAddress

end ContentFilter
