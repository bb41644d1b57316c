import ContentFilter.Proofs.Host.Filters
import ContentFilter.Proofs.Rule.Expressions
import ContentFilter.Proofs.Wildcard.HostFilters

namespace ContentFilter

open Text Wildcard

namespace Host

def nowhere : Text := "0.0.0.0".toList

def hostsLine (host : Text) : Text := nowhere ++ [' '] ++ host

theorem nowhere_chars : ∀ c ∈ nowhere, isNameChar c = true := List.all_eq_true.mp (by decide)

theorem unmarked_eq (filter : Text) (trimmed : IsTrimmed filter) (noMark : '@' ∉ filter) :
    unmarked filter = filter := by
  have noException : ¬ ['@', '@'] <+: filter :=
    fun mark => noMark (mark.subset List.mem_cons_self)
  rw [unmarked, trim_eq filter trimmed, (strip_prefix_none filter _).mpr noException,
    Option.getD_none]

theorem trimmed_host_filter (host : Text) : IsTrimmed (hostFilter host) :=
  trimmed_append "||".toList host ['^'] (trimmed_of_trim_eq _ (by decide))
    (trimmed_of_trim_eq _ (by decide)) (by decide) (by decide)

section canonical

variable (host : Text) (canonical : normalize? host = some host)

include canonical

theorem small_of_canonical : IsSmallName host := small_name_of_normalize host host canonical

theorem absent_from_host_filter (c : Char) (noName : isNameChar c = false) (noBar : c ≠ '|')
    (noEnd : c ≠ '^') : c ∉ hostFilter host := by
  have absent := absent_from_small_name host (small_of_canonical host canonical) c noName
  simp [hostFilter, absent, noBar, noEnd]

theorem absent_from_hosts_line (c : Char) (noName : isNameChar c = false)
    (filled : isBlank c = false) : c ∉ hostsLine host := by
  have absent := absent_from_small_name host (small_of_canonical host canonical) c noName
  have noAddress : c ∉ nowhere := by
    intro member
    rw [nowhere_chars c member] at noName
    cases noName
  have noSpace : c ≠ ' ' := by
    rintro rfl
    exact absurd filled (by decide)
  rw [hostsLine, List.mem_append, List.mem_append, List.mem_singleton, not_or, not_or]
  exact ⟨⟨noAddress, noSpace⟩, absent⟩

theorem trimmed_hosts_line : IsTrimmed (hostsLine host) := by
  have small := small_name_trimmed host (small_of_canonical host canonical)
  exact trimmed_append nowhere [' '] host (trimmed_of_trim_eq _ (by decide)) small (by decide)
    (normalize_ne_nil host host canonical)

theorem words_hosts_line : HasWords (hostsLine host) [nowhere, host] := by
  have isWord : IsWord host := by
    refine ⟨normalize_ne_nil host host canonical, ?_⟩
    intro c member
    exact name_char_not_blank c (small_of_canonical host canonical c member).1
  have address : IsWord nowhere :=
    ⟨by decide, fun c member => name_char_not_blank c (nowhere_chars c member)⟩
  have space : IsBlankText [' '] := by decide
  have ends : ∀ c ∈ ([' '] ++ host).head?, isBlank c = true := by
    intro c head
    exact space c (List.mem_singleton.mpr (Option.some.inj head).symm)
  rw [← words_eq_iff, hostsLine, List.append_assoc, words_append _ _ address ends,
    words_blank [' '] host space, words_of_word host isWord]

section dotted

variable (dotted : '.' ∈ host)

include dotted

theorem of_filter_host_filter : ofFilter? (hostFilter host) = some host := by
  have small := small_of_canonical host canonical
  have absent (c : Char) := absent_from_host_filter host canonical c
  have bare := unmarked_eq _ (trimmed_host_filter host)
    (absent '@' (by decide) (by decide) (by decide))
  have plain : ∀ c ∈ host, c ∉ ['/', '*', '^', '|', ':', '?'] := by
    intro c member
    exact name_char_no_pattern c (small c member).1
  rw [of_filter_iff, bare]
  exact ⟨absent '$' (by decide) (by decide) (by decide), .anchored host host plain canonical, dotted⟩

theorem of_filter_hosts_line : ofFilter? (hostsLine host) = some host := by
  have absent (c : Char) := absent_from_hosts_line host canonical c
  have bare := unmarked_eq _ (trimmed_hosts_line host canonical) (absent '@' (by decide) (by decide))
  have unanchored : ¬ "||".toList <+: hostsLine host :=
    fun bars => absent '|' (by decide) (by decide) (bars.subset (by decide))
  have words := words_hosts_line host canonical
  rw [of_filter_iff, bare]
  exact ⟨absent '$' (by decide) (by decide),
    .listed (hostsLine host) nowhere host host unanchored words (by decide) canonical, dotted⟩

end dotted

end canonical

end Host

namespace Rule

theorem of_line_host (line host : Text) (trimmed : IsTrimmed line)
    (noComment : isComment line = false) (noMark : '@' ∉ line) (noHash : '#' ∉ line)
    (stands : Host.ofFilter? line = some host) :
    ofLine line = .ok (some (.host .block host)) := by
  have some_line : line.isEmpty = false := by
    cases line with
    | nil => cases stands
    | cons c r => rfl
  have whole := trim_eq line trimmed
  have read := of_line_unmarked line
  rw [whole, some_line, noComment] at read
  rw [read (by simp), ofFilter, stands]
  · rfl
  · exact fun mark => noMark (mark.subset List.mem_cons_self)
  · exact fun mark => noHash (mark.subset List.mem_cons_self)
  · exact fun mark => noHash (mark.subset List.mem_cons_self)

section canonical

variable (host : Text) (canonical : Host.normalize? host = some host) (dotted : '.' ∈ host)

include canonical dotted

theorem of_line_host_filter : ofLine (hostFilter host) = .ok (some (.host .block host)) := by
  have absent (c : Char) := Host.absent_from_host_filter host canonical c
  apply of_line_host
  · exact Host.trimmed_host_filter host
  · rfl
  · exact absent '@' (by decide) (by decide) (by decide)
  · exact absent '#' (by decide) (by decide) (by decide)
  · exact Host.of_filter_host_filter host canonical dotted

theorem of_line_host_exception :
    ofLine ('@' :: '@' :: hostFilter host) = .ok (some (.host .allow host)) := by
  rw [of_line_marked (hostFilter host) (Host.trimmed_host_filter host) (List.cons_ne_nil _ _),
    ofFilter, Host.of_filter_host_filter host canonical dotted]
  rfl

theorem of_line_hosts_line : ofLine (Host.hostsLine host) = .ok (some (.host .block host)) := by
  have absent (c : Char) := Host.absent_from_hosts_line host canonical c
  apply of_line_host
  · exact Host.trimmed_hosts_line host canonical
  · rfl
  · exact absent '@' (by decide) (by decide)
  · exact absent '#' (by decide) (by decide)
  · exact Host.of_filter_hosts_line host canonical dotted

end canonical

/-- A filter stands for a host exactly where it is written as `||name^` or as the line of a hosts
file, perhaps as an exception, without options, and the canonical form of the name has a dot. That
host is in canonical form, and a line that names it again gives the rule of the host. -/
theorem filters_of_hosts (filter host : Text) :
    (Host.ofFilter? filter = some host ↔
      '$' ∉ Host.unmarked filter ∧ Host.StandsFor (Host.unmarked filter) host ∧ '.' ∈ host) ∧
      (Host.ofFilter? filter = some host →
        Host.IsCanonical host ∧
          ofLine (hostFilter host) = .ok (some (.host .block host)) ∧
          ofLine ("@@".toList ++ hostFilter host) = .ok (some (.host .allow host)) ∧
          ofLine (Host.hostsLine host) = .ok (some (.host .block host))) := by
  refine ⟨Host.of_filter_iff filter host, ?_⟩
  intro found
  obtain ⟨-, stands, dotted⟩ := (Host.of_filter_iff filter host).mp found
  obtain ⟨written, normal⟩ := stands.exists_written
  have canonical := Host.normalize_again written host normal
  exact ⟨Host.is_canonical written host normal, of_line_host_filter host canonical dotted,
    of_line_host_exception host canonical dotted, of_line_hosts_line host canonical dotted⟩

/-- Dots, capitals and white space around the name are no part of the host. -/
theorem untidy_filters_of_hosts :
    Host.ofFilter? "\t@@||.Ads_1.Example..^ ".toList = some "ads_1.example".toList ∧
      Host.ofFilter? "::1\u3000Ads_1.Example".toList = some "ads_1.example".toList ∧
      Host.IsCanonical "ads_1.example".toList ∧
      ofLine "@@||ads_1.example^".toList = .ok (some (.host .allow "ads_1.example".toList)) := by
  have found : Host.ofFilter? "\t@@||.Ads_1.Example..^ ".toList = some "ads_1.example".toList := by
    decide
  obtain ⟨-, again⟩ := filters_of_hosts "\t@@||.Ads_1.Example..^ ".toList "ads_1.example".toList
  obtain ⟨written, -⟩ := filters_of_hosts "::1\u3000Ads_1.Example".toList "ads_1.example".toList
  have listed : Host.StandsFor "::1\u3000Ads_1.Example".toList "ads_1.example".toList :=
    .listed _ "::1".toList "Ads_1.Example".toList _ (by decide) ((words_eq_iff _ _).mp (by decide))
      (by decide) (by decide)
  obtain ⟨canonical, -, exception, -⟩ := again found
  exact ⟨found, written.mpr ⟨by decide, listed, by decide⟩, canonical, exception⟩

end Rule

end ContentFilter
