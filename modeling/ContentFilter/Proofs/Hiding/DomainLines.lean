import ContentFilter.Proofs.Hiding.Exceptions
import ContentFilter.Proofs.Host.Names
import ContentFilter.Proofs.Text.Words

namespace ContentFilter

open Text

/-- A domain in the list of a hiding line: its name, behind a tilde if the rule is not for it, and
the white space around these. -/
structure ListedDomain where
  isExcluded : Bool
  name : Text
  before : Text := []
  after : Text := []
  some_name : name ≠ []
  chars : ∀ c ∈ name, Host.isNameChar c = true
  blank_before : IsBlankText before
  blank_after : IsBlankText after

namespace ListedDomain

def marked (d : ListedDomain) : Text := if d.isExcluded then '~' :: d.name else d.name

def written (d : ListedDomain) : Text := d.before ++ d.marked ++ d.after

def names (excluded : Bool) (domains : List ListedDomain) : List Text :=
  (domains.filter (·.isExcluded == excluded)).map (·.name.asciiLower)

def listed (domains : List ListedDomain) : Text := joinWith [','] (domains.map written)

section one

variable (d : ListedDomain)

theorem marked_begins :
    ∃ c rest, d.marked = c :: rest ∧ isBlank c = false ∧ c ∉ ['!', '[', '@', '#'] := by
  rw [marked]
  split
  · exact ⟨'~', d.name, rfl, by decide, by decide⟩
  · obtain ⟨c, rest, same⟩ := List.exists_cons_of_ne_nil d.some_name
    have nameChar := d.chars c (same ▸ List.mem_cons_self)
    have apart : ∀ c, Host.isNameChar c = true → c ∉ ['!', '[', '@', '#'] :=
      Host.of_name_chars (by decide)
    exact ⟨c, rest, same, Host.name_char_not_blank c nameChar, apart c nameChar⟩

theorem marked_trimmed : IsTrimmed d.marked := by
  constructor
  · intro c head
    obtain ⟨first, rest, same, filled, -⟩ := d.marked_begins
    rw [same, List.head?_cons, Option.mem_some_iff] at head
    exact head ▸ filled
  · intro c last
    have among : c ∈ d.name := by
      rw [marked] at last
      split at last
      · rw [List.getLast?_cons_of_ne_nil d.some_name] at last
        exact List.mem_of_getLast? last
      · exact List.mem_of_getLast? last
    exact Host.name_char_not_blank c (d.chars c among)

theorem trim_written : d.written.trim = d.marked := by
  rw [written, trim_between_blanks _ _ _ d.blank_before d.blank_after,
    trim_eq d.marked d.marked_trimmed]

theorem absent_from_written (c : Char) (filled : isBlank c = false)
    (noName : Host.isNameChar c = false) (noTilde : c ≠ '~') : c ∉ d.written := by
  have unblank (s : Text) (blank : IsBlankText s) : c ∉ s := by
    intro member
    rw [blank c member] at filled
    cases filled
  have unnamed : c ∉ d.name := by
    intro member
    rw [d.chars c member] at noName
    cases noName
  have unmarked : c ∉ d.marked := by
    rw [marked]
    split
    · simp [noTilde, unnamed]
    · exact unnamed
  rw [written, List.mem_append, List.mem_append, not_or, not_or]
  exact ⟨⟨unblank _ d.blank_before, unmarked⟩, unblank _ d.blank_after⟩

theorem add_marked (known : List Text × List Text) :
    HidingRule.addDomain false known d.marked =
      (known.1 ++ names false [d], known.2 ++ names true [d]) := by
  rw [HidingRule.addDomain, trim_eq d.marked d.marked_trimmed, marked]
  obtain ⟨c, rest, same⟩ := List.exists_cons_of_ne_nil d.some_name
  have noTilde : c ≠ '~' := by
    rintro rfl
    exact absurd (d.chars '~' (same ▸ List.mem_cons_self)) (by decide)
  cases kind : d.isExcluded with
  | true => simp [names, kind, same]
  | false => simp [names, kind, same, noTilde]

end one

theorem names_cons (excluded : Bool) (d : ListedDomain) (domains : List ListedDomain) :
    names excluded (d :: domains) = names excluded [d] ++ names excluded domains := by
  simp only [names, List.filter_cons]
  split <;> rfl

theorem fold_marked (domains : List ListedDomain) (known : List Text × List Text) :
    (domains.map marked).foldl (HidingRule.addDomain false) known =
      (known.1 ++ names false domains, known.2 ++ names true domains) := by
  induction domains generalizing known with
  | nil => simp [names]
  | cons d domains ih =>
      rw [List.map_cons, List.foldl_cons, add_marked, ih, names_cons false d domains,
        names_cons true d domains]
      simp only [List.append_assoc]

theorem some_names (domains : List ListedDomain) (some_domains : domains ≠ []) :
    names false domains ≠ [] ∨ names true domains ≠ [] := by
  obtain ⟨d, rest, rfl⟩ := List.exists_cons_of_ne_nil some_domains
  rw [names_cons false d rest, names_cons true d rest]
  cases kind : d.isExcluded <;> simp [names, kind]

section listed

variable (domains : List ListedDomain) (some_domains : domains ≠ [])

theorem absent_from_listed (c : Char) (filled : isBlank c = false)
    (noName : Host.isNameChar c = false) (noTilde : c ≠ '~') (noComma : c ≠ ',') :
    c ∉ listed domains := by
  apply not_mem_join ',' c noComma
  intro part member
  obtain ⟨d, -, rfl⟩ := List.mem_map.mp member
  exact d.absent_from_written c filled noName noTilde

include some_domains

theorem trimmed_parts : (splitAll ',' (listed domains)).map trim = domains.map marked := by
  have parts : splitAll ',' (listed domains) = domains.map written := by
    apply split_all_join ',' _ (by simpa using some_domains)
    intro part member
    obtain ⟨d, -, rfl⟩ := List.mem_map.mp member
    exact d.absent_from_written ',' (by decide) (by decide) (by decide)
  rw [parts, List.map_map]
  exact List.map_congr_left fun d _ => d.trim_written

theorem fold_listed :
    ((listed domains).trim.splitAll ',').foldl (HidingRule.addDomain false) ([], []) =
      (names false domains, names true domains) := by
  have blind (known : List Text × List Text) (part : Text) :
      HidingRule.addDomain false known part.trim = HidingRule.addDomain false known part := by
    rw [HidingRule.addDomain, HidingRule.addDomain, trim_trim]
  rw [← fold_trim _ blind, split_all_trim ',' (by decide), trimmed_parts domains some_domains,
    fold_marked, List.nil_append, List.nil_append]

theorem listed_begins : ∃ c rest, (listed domains).trimStart = c :: rest ∧
    c ∉ ['!', '[', '@', '#'] := by
  obtain ⟨d, domains, rfl⟩ := List.exists_cons_of_ne_nil some_domains
  obtain ⟨c, rest, same, filled, plain⟩ := d.marked_begins
  obtain ⟨behind, whole⟩ : ∃ behind, listed (d :: domains) = d.before ++ (c :: rest ++ behind) := by
    rw [listed, List.map_cons]
    cases domains with
    | nil => exact ⟨d.after, by simp [joinWith, written, same]⟩
    | cons next domains => exact ⟨d.after ++ ',' :: listed (next :: domains), by
        simp [joinWith, written, same, listed]⟩
  refine ⟨c, rest ++ behind, ?_, plain⟩
  rw [whole, trimStart, List.dropWhile_append_of_pos d.blank_before, List.cons_append,
    List.dropWhile_cons, filled]
  rfl

end listed

end ListedDomain

namespace HidingRule

theorem of_parts_trim (domains selector : Text) (isException : Bool) :
    ofParts? domains.trim selector.trim isException = ofParts? domains selector isException := by
  rw [ofParts?, ofParts?, trim_trim, trim_trim]

theorem of_parts_listed (domains : List ListedDomain) (some_domains : domains ≠ [])
    (selector : Text) (some_selector : selector.trim ≠ []) :
    ofParts? (ListedDomain.listed domains) selector false =
      some (.perDomain selector.trim (ListedDomain.names false domains)
        (ListedDomain.names true domains)) := by
  have filled : (ListedDomain.listed domains).trim ≠ [] := by
    intro nothing
    have parts := ListedDomain.fold_listed domains some_domains
    rw [nothing] at parts
    rcases ListedDomain.some_names domains some_domains with included | excluded
    · exact included (congrArg Prod.fst parts).symm
    · exact excluded (congrArg Prod.snd parts).symm
  rw [ofParts?, if_neg (by simpa using some_selector), if_neg (by simpa using filled),
    ListedDomain.fold_listed domains some_domains]
  split
  · rename_i none_listed
    rcases ListedDomain.some_names domains some_domains with included | excluded
    · exact absurd (congrArg Prod.fst none_listed) included
    · exact absurd (congrArg Prod.snd none_listed) excluded
  · rename_i same
    obtain ⟨rfl, rfl⟩ := Prod.mk.inj same
    rfl

end HidingRule

namespace Rule

theorem of_line_cut (domains selector : Text) (noHash : '#' ∉ domains)
    (begins : ∃ c rest, domains.trimStart = c :: rest ∧ c ∉ ['!', '[', '@', '#']) :
    ofLine (domains ++ hidingMark ++ selector) =
      .ok ((HidingRule.ofParts? domains selector false).map .hide) := by
  obtain ⟨c, rest, front, plain⟩ := begins
  have trimmed : trim (domains ++ hidingMark ++ selector) =
      c :: rest ++ hidingMark ++ selector.dropEndWhile isBlank := by
    have around := trim_around domains ('#' :: selector) '#' (by decide)
    have behind := drop_end_while_append isBlank [] selector '#' (by decide)
    rw [List.nil_append, List.nil_append] at behind
    rw [behind, front] at around
    simpa [hidingMark] using around
  have absent : '#' ∉ c :: rest := by
    rw [← front]
    exact fun member => noHash ((List.dropWhile_suffix isBlank).subset member)
  have cut := split_once_append (c :: rest) (selector.dropEndWhile isBlank) ['#'] '#' absent
  have parts := HidingRule.of_parts_trim domains selector false
  rw [← trim_trim_start domains, ← trim_drop_end selector, front,
    HidingRule.of_parts_trim] at parts
  simp only [List.mem_cons, List.not_mem_nil, or_false, not_or] at plain
  have isRule : ¬ ((c :: rest ++ hidingMark ++ selector.dropEndWhile isBlank).isEmpty ||
      isComment (c :: rest ++ hidingMark ++ selector.dropEndWhile isBlank)) = true := by
    simp [isComment, plain.1, plain.2.1]
  -- the first character is one of the domains, so the line is no exception to other rules
  rw [ofLine, trimmed, if_neg isRule]
  split
  · next _ same => exact absurd (List.cons.inj same).1 plain.2.2.1
  · rw [show splitOnce (c :: rest ++ hidingMark ++ selector.dropEndWhile isBlank) ['#', '#'] =
      some (c :: rest, selector.dropEndWhile isBlank) from cut]
    exact congrArg _ (congrArg _ parts)

/-- A line of some domains, the mark and a selector is the rule of this selector for the domains
without a tilde and not for those with one, whatever characters the selector has. -/
theorem of_line_listed (domains : List ListedDomain) (some_domains : domains ≠ [])
    (selector : Text) (some_selector : selector.trim ≠ []) :
    ofLine (ListedDomain.listed domains ++ hidingMark ++ selector) =
      .ok (some (.hide (.perDomain selector.trim (ListedDomain.names false domains)
        (ListedDomain.names true domains)))) := by
  have noHash := ListedDomain.absent_from_listed domains '#' (by decide) (by decide) (by decide)
    (by decide)
  rw [of_line_cut _ selector noHash (ListedDomain.listed_begins domains some_domains),
    HidingRule.of_parts_listed domains some_domains selector some_selector]
  rfl

/-- The first mark is the one that counts, even before a selector that begins with another one. -/
theorem crowded_line_read_back :
    ofLine "\tShop.Example ,~Partner_1.shop.example , cafe## #@##ad[x='a##,~b$c'] ".toList =
      .ok (some (.hide (.perDomain "#@##ad[x='a##,~b$c']".toList
        ["shop.example".toList, "cafe".toList] ["partner_1.shop.example".toList]))) :=
  of_line_listed
    [{ isExcluded := false, name := "Shop.Example".toList, before := ['\t'], after := [' ']
       some_name := by decide, chars := List.all_eq_true.mp (by decide)
       blank_before := by decide, blank_after := by decide },
      { isExcluded := true, name := "Partner_1.shop.example".toList, after := [' ']
        some_name := by decide, chars := List.all_eq_true.mp (by decide)
        blank_before := by decide, blank_after := by decide },
      { isExcluded := false, name := "cafe".toList, before := [' ']
        some_name := by decide, chars := List.all_eq_true.mp (by decide)
        blank_before := by decide, blank_after := by decide }]
    (by decide) " #@##ad[x='a##,~b$c'] ".toList (by decide)

end Rule

end ContentFilter
