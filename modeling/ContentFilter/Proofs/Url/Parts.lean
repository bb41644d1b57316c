import ContentFilter.Proofs.Text.LetterCase
import ContentFilter.Request

namespace ContentFilter.Url

def hostAndPort (authority : Text) : Text := (authority.splitLast '@').elim authority (·.2)

def withoutPort? (rest : Text) : Option Text :=
  match rest with
  | '[' :: inner => (Text.splitOnce inner [']']).map (·.1)
  | _ => some (rest.takeWhile (· != ':'))

theorem without_port_plain (rest : Text) (plain : ∀ inner, rest ≠ '[' :: inner) :
    withoutPort? rest = some (rest.takeWhile (· != ':')) := by
  rw [withoutPort?]
  exact plain

theorem host_eq (url : Text) :
    host? url = (authority? url).bind fun authority => withoutPort? (hostAndPort authority) := by
  rw [host?]
  cases authority? url with
  | none => rfl
  | some authority =>
      dsimp only [Option.bind_some, hostAndPort]
      generalize authority.splitLast '@' = cut
      cases cut
      all_goals
        dsimp only [Option.elim_none, Option.elim_some]
        split
        · rename_i opened
          rw [opened, withoutPort?]
        · rename_i other
          exact (without_port_plain _ other).symm

theorem scheme_lower (url : Text) : scheme? url.asciiLower = scheme? url := by
  rw [scheme?, scheme?, Text.split_once_lower url [':'] (by decide)]
  cases url.splitOnce [':'] with
  | none => rfl
  | some cut =>
      obtain ⟨name, rest⟩ := cut
      have slashes := Text.is_prefix_of_lower rest ['/', '/'] (by decide)
      simp only [Option.map_some, Text.equal_ignoring_case_lower, slashes]

theorem ends_authority_lower (c : Char) : endsAuthority c.toLower = endsAuthority c :=
  of_capitals (p := fun c d => endsAuthority d = endsAuthority c) (fun _ => rfl) (by decide) c

theorem authority_lower (url : Text) :
    authority? url.asciiLower = (authority? url).map Text.asciiLower := by
  have goes (c : Char) : (!endsAuthority c.toLower) = !endsAuthority c := by
    rw [ends_authority_lower]
  rw [authority?, authority?, Text.split_once_lower url [':', '/', '/'] (by decide),
    Option.map_map, Option.map_map]
  congr 1
  funext cut
  exact Text.take_while_lower cut.2 _ goes

theorem host_and_port_lower (authority : Text) :
    hostAndPort authority.asciiLower = (hostAndPort authority).asciiLower := by
  rw [hostAndPort, hostAndPort, Text.split_last_lower authority '@' (by decide)]
  cases authority.splitLast '@' <;> rfl

theorem colon_lower (c : Char) : (c.toLower != ':') = (c != ':') := by
  rw [Bool.eq_iff_iff, bne_iff_ne, bne_iff_ne, ne_eq, to_lower_eq_iff c ':' (by decide)]

theorem without_port_lower (rest : Text) :
    withoutPort? rest.asciiLower = (withoutPort? rest).map Text.asciiLower := by
  by_cases opened : ∃ inner, rest = '[' :: inner
  · obtain ⟨inner, rfl⟩ := opened
    change (Text.splitOnce (Text.asciiLower inner) [']']).map (·.1) = _
    rw [Text.split_once_lower inner [']'] (by decide), withoutPort?, Option.map_map, Option.map_map]
    rfl
  · have plain : ∀ inner, rest.asciiLower ≠ '[' :: inner := by
      intro inner same
      obtain ⟨c, tail, rfl, bracket, -⟩ := List.map_eq_cons_iff.mp same
      exact opened ⟨tail, by rw [(to_lower_eq_iff c '[' (by decide)).mp bracket]⟩
    rw [without_port_plain _ plain, without_port_plain rest (not_exists.mp opened), Option.map_some,
      Text.take_while_lower rest _ colon_lower]

theorem host_lower (url : Text) : host? url.asciiLower = (host? url).map Text.asciiLower := by
  rw [host_eq, host_eq, authority_lower]
  cases authority? url with
  | none => rfl
  | some authority =>
      rw [Option.map_some, Option.bind_some, host_and_port_lower, without_port_lower,
        Option.bind_some]

end ContentFilter.Url
