import ContentFilter.Host
import ContentFilter.Proofs.Text.LetterCase

namespace ContentFilter

namespace Host

def IsSmallName (name : Text) : Prop := ∀ c ∈ name, isNameChar c = true ∧ c.toLower = c

theorem name_char_ascii (c : Char) (nameChar : isNameChar c = true) : c.toNat < 128 := by
  simp only [isNameChar, isAsciiLetter, isAsciiDigit, Bool.or_eq_true, Bool.and_eq_true,
    decide_eq_true_eq, beq_iff_eq, Char.le_def, UInt32.le_iff_toNat_le] at nameChar
  rcases nameChar with ((((small | capital) | digit) | rfl) | rfl) | rfl
  · exact Nat.lt_of_le_of_lt small.2 (by decide)
  · exact Nat.lt_of_le_of_lt capital.2 (by decide)
  · exact Nat.lt_of_le_of_lt digit.2 (by decide)
  all_goals decide

theorem of_name_chars {p : Char → Prop}
    (checked : ∀ n < 128, isNameChar (Char.ofNat n) = true → p (Char.ofNat n)) (c : Char)
    (nameChar : isNameChar c = true) : p c := by
  have checked := checked c.toNat (name_char_ascii c nameChar)
  rw [Char.ofNat_toNat] at checked
  exact checked nameChar

theorem lower_name_char (c : Char) (nameChar : isNameChar c = true) :
    isNameChar c.toLower = true ∧ c.toLower.toLower = c.toLower := by
  revert nameChar c
  exact of_name_chars (by decide)

theorem name_char_plain (c : Char) (nameChar : isNameChar c = true) :
    c ∉ [':', '/', '?', '#', '@', '['] := by
  revert nameChar c
  exact of_name_chars (by decide)

theorem small_name_lower (name : Text) (chars : ∀ c ∈ name, isNameChar c = true) :
    IsSmallName name.asciiLower := by
  intro c member
  obtain ⟨d, among, rfl⟩ := List.mem_map.mp member
  exact lower_name_char d (chars d among)

theorem normalize_eq_some_iff (written name : Text) :
    normalize? written = some name ↔
      ∃ bare, written.trim.dropAroundWhile (· == '.') = bare ∧ bare ≠ [] ∧
        (∀ c ∈ bare, isNameChar c = true) ∧ ¬ ['.', '.'] <:+: bare ∧ bare.asciiLower = name := by
  rw [normalize?, exists_eq_left', Option.ite_none_left_eq_some, Option.some_inj,
    ← Text.has_infix_iff]
  simp only [Bool.or_eq_true, not_or, List.isEmpty_iff, Bool.not_eq_true', Bool.not_eq_false,
    List.all_eq_true, and_assoc]

theorem small_name_of_normalize (written name : Text) (canonical : normalize? written = some name) :
    IsSmallName name := by
  obtain ⟨bare, -, -, chars, -, rfl⟩ := (normalize_eq_some_iff written name).mp canonical
  exact small_name_lower bare chars

theorem normalize_ne_nil (written domain : Text) (found : normalize? written = some domain) :
    domain ≠ [] := by
  obtain ⟨bare, -, nonempty, -, -, rfl⟩ := (normalize_eq_some_iff written domain).mp found
  rwa [Ne, Text.asciiLower, List.map_eq_nil_iff]

theorem rootless_of_normalize (written name : Text) (canonical : normalize? written = some name) :
    name.getLast? ≠ some '.' := by
  obtain ⟨bare, rfl, -, -, -, rfl⟩ := (normalize_eq_some_iff written name).mp canonical
  rw [Text.asciiLower, List.getLast?_map]
  intro dot
  obtain ⟨c, last, lowered⟩ := Option.map_eq_some_iff.mp dot
  have stripped := Text.last_drop_end_while (· == '.') _ c last
  rw [(to_lower_eq_iff c '.' (by decide)).mp lowered] at stripped
  cases stripped

theorem lower_small_name (name : Text) (small : IsSmallName name) : name.asciiLower = name := by
  rw [Text.asciiLower, List.map_congr_left fun c member => (small c member).2]
  exact List.map_id name

theorem name_char_not_blank (c : Char) (nameChar : isNameChar c = true) : isBlank c = false := by
  revert nameChar c
  exact of_name_chars (by decide)

theorem small_name_trimmed (name : Text) (small : IsSmallName name) : Text.IsTrimmed name := by
  constructor
  · intro c head
    exact name_char_not_blank c (small c (List.mem_of_mem_head? head)).1
  · intro c tail
    exact name_char_not_blank c (small c (List.mem_of_getLast? tail)).1

theorem absent_from_small_name (name : Text) (small : IsSmallName name) (c : Char)
    (noName : isNameChar c = false) : c ∉ name := by
  intro member
  rw [(small c member).1] at noName
  cases noName

theorem normalize_small_name (name : Text) (small : IsSmallName name) (nonempty : name ≠ [])
    (first : name.head? ≠ some '.') (last : name.getLast? ≠ some '.')
    (apart : ¬ ['.', '.'] <:+: name) : normalize? name = some name := by
  have trimmed := Text.trim_eq name (small_name_trimmed name small)
  have front : name.dropWhile (· == '.') = name := by
    cases name with
    | nil => rfl
    | cons c r =>
        have differs : (c == '.') = false := by simpa using first
        simp [differs]
  have back : name.dropEndWhile (· == '.') = name := by
    apply Text.drop_end_while_eq
    intro c tail
    rw [beq_eq_false_iff_ne]
    rintro rfl
    exact last tail
  have whole : name.dropAroundWhile (· == '.') = name := by
    rw [Text.dropAroundWhile, front, back]
  have chars (c : Char) (member : c ∈ name) : isNameChar c = true := (small c member).1
  rw [normalize_eq_some_iff, trimmed]
  exact ⟨name, whole, nonempty, chars, apart, lower_small_name name small⟩

theorem dots_of_normalize (written name : Text) (canonical : normalize? written = some name) :
    name.head? ≠ some '.' ∧ ¬ ['.', '.'] <:+: name := by
  have dot (c : Char) : c.toLower = '.' ↔ c = '.' := to_lower_eq_iff c '.' (by decide)
  obtain ⟨bare, stripped, -, -, apart, rfl⟩ := (normalize_eq_some_iff written name).mp canonical
  have first := Text.head_drop_around_while (· == '.') written.trim
  rw [stripped] at first
  constructor
  · rw [Text.asciiLower, List.head?_map]
    intro head
    obtain ⟨c, begins, same⟩ := Option.map_eq_some_iff.mp head
    rw [(dot c).mp same] at begins
    cases first '.' begins
  · intro dots
    rw [Text.asciiLower, List.infix_map_iff] at dots
    obtain ⟨pair, among, same⟩ := dots
    obtain ⟨c, rest, rfl, one, tail⟩ := List.map_eq_cons_iff.mp same.symm
    obtain ⟨d, rest, rfl, other, ended⟩ := List.map_eq_cons_iff.mp tail
    rw [(dot c).mp one, (dot d).mp other, List.map_eq_nil_iff.mp ended] at among
    exact apart among

theorem normalize_again (written name : Text) (canonical : normalize? written = some name) :
    normalize? name = some name := by
  obtain ⟨first, apart⟩ := dots_of_normalize written name canonical
  apply normalize_small_name name (small_name_of_normalize written name canonical)
  · exact normalize_ne_nil written name canonical
  · exact first
  · exact rootless_of_normalize written name canonical
  · exact apart

theorem lookup_form_rootless (host : Text) (rootless : host.getLast? ≠ some '.') :
    lookupForm host = host.asciiLower := by
  rw [lookupForm]
  apply Text.drop_end_while_eq
  intro c last
  rw [Text.asciiLower, List.getLast?_map] at last
  obtain ⟨d, final, rfl⟩ := Option.map_eq_some_iff.mp last
  rw [beq_eq_false_iff_ne, Ne, to_lower_eq_iff d '.' (by decide)]
  rintro rfl
  exact rootless final

end Host

end ContentFilter
