import ContentFilter.Proofs.Host.Names
import ContentFilter.Proofs.Host.Domains
import ContentFilter.Proofs.Text.Words

namespace ContentFilter.Host

open Text

def unmarked (filter : Text) : Text := (filter.trim.stripPrefix? ['@', '@']).getD filter.trim

/-- What a filter that stands for a host looks like, and the canonical form of the name in it. -/
inductive StandsFor : Text → Text → Prop
  /-- `||name^`, where no character of the name means more to a pattern. -/
  | anchored (name host : Text) (plain : ∀ c ∈ name, c ∉ ['/', '*', '^', '|', ':', '?'])
      (canonical : normalize? name = some host) : StandsFor ("||".toList ++ name ++ ['^']) host
  /-- An address and a name. -/
  | listed (line address name host : Text) (unanchored : ¬ "||".toList <+: line)
      (words : HasWords line [address, name]) (addressed : isAddress address = true)
      (canonical : normalize? name = some host) : StandsFor line host

theorem StandsFor.exists_written {filter host : Text} (stands : StandsFor filter host) :
    ∃ name, normalize? name = some host := by
  cases stands with
  | anchored name _ _ canonical => exact ⟨name, canonical⟩
  | listed _ _ name _ _ _ _ canonical => exact ⟨name, canonical⟩

theorem name_char_no_pattern (c : Char) (nameChar : isNameChar c = true) :
    c ∉ ['/', '*', '^', '|', ':', '?'] := by
  revert nameChar c
  exact of_name_chars (by decide)

theorem stands_for_anchored (rest host : Text) :
    StandsFor ("||".toList ++ rest) host ↔ ∃ name, rest = name ++ ['^'] ∧
      (∀ c ∈ name, c ∉ ['/', '*', '^', '|', ':', '?']) ∧ normalize? name = some host := by
  constructor
  · intro stands
    generalize whole : "||".toList ++ rest = line at stands
    cases stands with
    | anchored name _ plain canonical =>
        rw [List.append_assoc, List.append_cancel_left_eq] at whole
        exact ⟨name, whole, plain, canonical⟩
    | listed _ address name _ unanchored =>
        exact absurd ⟨rest, whole⟩ unanchored
  · intro found
    obtain ⟨name, rfl, plain, canonical⟩ := found
    rw [← List.append_assoc]
    exact .anchored name host plain canonical

theorem stands_for_listed (line host : Text) (unanchored : ¬ "||".toList <+: line) :
    StandsFor line host ↔ ∃ address name, HasWords line [address, name] ∧
      isAddress address = true ∧ normalize? name = some host := by
  constructor
  · intro stands
    cases stands with
    | anchored name =>
        rw [List.append_assoc] at unanchored
        exact absurd (List.prefix_append _ _) unanchored
    | listed _ address name _ _ words addressed canonical =>
        exact ⟨address, name, words, addressed, canonical⟩
  · intro found
    obtain ⟨address, name, words, addressed, canonical⟩ := found
    exact .listed line address name host unanchored words addressed canonical

theorem dotted_eq_some_iff (written host : Text) :
    dotted? written = some host ↔ normalize? written = some host ∧ '.' ∈ host := by
  rw [dotted?, Option.filter_eq_some_iff, List.contains_iff_mem]

theorem of_hosts_line_iff (line host : Text) (unanchored : ¬ "||".toList <+: line) :
    ofHostsLine? line = some host ↔ StandsFor line host ∧ '.' ∈ host := by
  simp only [stands_for_listed line host unanchored, ← words_eq_iff]
  rw [ofHostsLine?]
  split
  · rename_i address name parted
    rw [parted]
    split
    · rename_i addressed
      rw [dotted_eq_some_iff]
      simp [addressed]
    · rename_i other
      simp [other]
  · rename_i other
    refine iff_of_false (by simp) ?_
    intro found
    obtain ⟨⟨address, name, parted, -⟩, -⟩ := found
    exact other address name parted

theorem any_pattern_char (name : Text) :
    name.any isPatternChar = false ↔ ∀ c ∈ name, c ∉ ['/', '*', '^', '|', ':', '?'] := by
  simp [isPatternChar]

theorem of_anchored_iff (rest host : Text) :
    (match rest.stripLast? '^' with
      | some name => if name.any isPatternChar then none else dotted? name
      | none => none) = some host ↔ StandsFor ("||".toList ++ rest) host ∧ '.' ∈ host := by
  simp only [stands_for_anchored, ← strip_last_eq_some]
  cases rest.stripLast? '^' with
  | none => simp
  | some name =>
      dsimp only
      by_cases more : name.any isPatternChar = true
      · rw [if_pos more]
        refine iff_of_false (by simp) ?_
        intro found
        obtain ⟨⟨other, same, plain, -⟩, -⟩ := found
        rw [← Option.some.inj same, ← any_pattern_char, more] at plain
        cases plain
      · have plain := (any_pattern_char name).mp (Bool.not_eq_true _ ▸ more)
        rw [if_neg more, dotted_eq_some_iff]
        apply and_congr_left'
        constructor
        · intro canonical
          exact ⟨name, rfl, plain, canonical⟩
        · intro found
          obtain ⟨other, same, -, canonical⟩ := found
          rw [Option.some.inj same]
          exact canonical

theorem of_filter_iff (filter host : Text) :
    ofFilter? filter = some host ↔
      '$' ∉ unmarked filter ∧ StandsFor (unmarked filter) host ∧ '.' ∈ host := by
  change (if (unmarked filter).contains '$' = true then none
    else match (unmarked filter).stripPrefix? "||".toList with
      | some rest =>
        match rest.stripLast? '^' with
        | some name => if name.any isPatternChar then none else dotted? name
        | none => none
      | none => ofHostsLine? (unmarked filter)) = some host ↔ _
  generalize unmarked filter = bare
  by_cases dollar : '$' ∈ bare
  · rw [if_pos (List.contains_iff_mem.mpr dollar)]
    simp [dollar]
  · rw [if_neg (mt List.contains_iff_mem.mp dollar), and_iff_right dollar]
    cases cut : bare.stripPrefix? "||".toList with
    | none =>
        exact of_hosts_line_iff bare host ((strip_prefix_none bare _).mp cut)
    | some rest =>
        rw [(strip_prefix_eq_some bare _ rest).mp cut]
        exact of_anchored_iff rest host

def IsSmallChar (c : Char) : Prop :=
  ('a' ≤ c ∧ c ≤ 'z') ∨ ('0' ≤ c ∧ c ≤ '9') ∨ c ∈ ['.', '_', '-']

instance : DecidablePred IsSmallChar := fun _ => inferInstanceAs (Decidable (_ ∨ _))

/-- A host name of small letters, digits, hyphens and low lines in labels that are not empty. -/
structure IsCanonical (host : Text) : Prop where
  some_host : host ≠ []
  chars : ∀ c ∈ host, IsSmallChar c
  labels : [] ∉ host.splitAll '.'
  fixed : normalize? host = some host

theorem small_name_char (c : Char) (nameChar : isNameChar c = true) (small : c.toLower = c) :
    IsSmallChar c := by
  revert small
  revert nameChar c
  exact of_name_chars (by decide)

theorem is_canonical (written host : Text) (canonical : normalize? written = some host) :
    IsCanonical host := by
  have small := small_name_of_normalize written host canonical
  have nonempty := normalize_ne_nil written host canonical
  have last := rootless_of_normalize written host canonical
  obtain ⟨first, apart⟩ := dots_of_normalize written host canonical
  constructor
  · exact nonempty
  · intro c member
    exact small_name_char c (small c member).1 (small c member).2
  · exact no_empty_part '.' host nonempty first last apart
  · exact normalize_again written host canonical

end ContentFilter.Host
