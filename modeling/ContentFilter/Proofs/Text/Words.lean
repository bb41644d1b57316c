import ContentFilter.Proofs.Text.Cuts

namespace ContentFilter.Text

def IsBlankText (s : Text) : Prop := ∀ c ∈ s, isBlank c = true

instance (s : Text) : Decidable (IsBlankText s) :=
  decidable_of_iff (s.all isBlank = true) List.all_eq_true

theorem trim_between_blanks (before s after : Text) (first : IsBlankText before)
    (last : IsBlankText after) : trim (before ++ s ++ after) = s.trim := by
  induction before with
  | nil =>
      rw [List.nil_append]
      induction after using List.reverseRecOn with
      | nil => rw [List.append_nil]
      | append_singleton after c ih =>
          have blank := last c (by simp)
          rw [← List.append_assoc, trim_append_blank _ c blank]
          exact ih fun d member => last d (List.mem_append_left _ member)
  | cons c before ih =>
      have blank := first c List.mem_cons_self
      rw [List.cons_append, List.cons_append, trim_cons_blank _ c blank]
      exact ih fun d member => first d (List.mem_cons_of_mem c member)

structure IsWord (word : Text) : Prop where
  some_word : word ≠ []
  filled : ∀ c ∈ word, isBlank c = false

/-- The text is these words in their order. What comes behind a word begins with white space. -/
inductive HasWords : Text → List Text → Prop
  | none (s : Text) (blank : IsBlankText s) : HasWords s []
  | cons (before word rest : Text) (more : List Text) (blank : IsBlankText before)
      (isWord : IsWord word) (ends : ∀ c ∈ rest.head?, isBlank c = true)
      (onward : HasWords rest more) : HasWords (before ++ word ++ rest) (word :: more)

theorem words_blank (blank s : Text) (isBlankText : IsBlankText blank) :
    words (blank ++ s) = s.words := by
  induction blank with
  | nil => rfl
  | cons c blank ih =>
      have here := isBlankText c List.mem_cons_self
      have later := ih fun d member => isBlankText d (List.mem_cons_of_mem c member)
      rw [List.cons_append, words, splitWhere, if_pos here]
      exact later

theorem words_of_blank (s : Text) (blank : IsBlankText s) : s.words = [] := by
  have read := words_blank s [] blank
  rw [List.append_nil] at read
  exact read

theorem words_append (word rest : Text) (isWord : IsWord word)
    (ends : ∀ c ∈ rest.head?, isBlank c = true) : words (word ++ rest) = word :: rest.words := by
  obtain ⟨part, parts, cut, whole⟩ := split_where_append isBlank word rest isWord.filled
  have firstEmpty : part = [] ∧ rest.words = parts.filter fun other => !other.isEmpty := by
    cases rest with
    | nil =>
        obtain ⟨rfl, rfl⟩ := List.cons.inj cut
        exact ⟨rfl, rfl⟩
    | cons c r =>
        have blank := ends c rfl
        rw [splitWhere, if_pos blank] at cut
        obtain ⟨rfl, rfl⟩ := List.cons.inj cut
        refine ⟨rfl, ?_⟩
        rw [words, splitWhere, if_pos blank]
        rfl
  obtain ⟨rfl, others⟩ := firstEmpty
  rw [words, whole, List.append_nil, others, List.filter_cons, if_pos]
  simpa using isWord.some_word

theorem words_of_word (word : Text) (isWord : IsWord word) : word.words = [word] := by
  have alone := words_append word [] isWord (by simp)
  rwa [List.append_nil] at alone

theorem words_of_has_words (s : Text) (found : List Text) (has : HasWords s found) :
    s.words = found := by
  induction has with
  | none s blank => exact words_of_blank s blank
  | cons before word rest more blank isWord ends _ ih =>
      rw [List.append_assoc, words_blank before _ blank, words_append word rest isWord ends, ih]

theorem exists_first_run (p : Char → Bool) (s : Text) :
    ∃ front back, s = front ++ back ∧ (∀ c ∈ front, p c = true) ∧ ∀ c ∈ back.head?, p c = false := by
  refine ⟨s.takeWhile p, s.dropWhile p, List.takeWhile_append_dropWhile.symm, ?_, ?_⟩
  · exact fun c member => List.mem_takeWhile_imp member
  · intro c head
    have stopped := List.head?_dropWhile_not p s
    rw [Option.mem_def.mp head] at stopped
    exact stopped

theorem exists_first_word (s : Text) (filled : ¬ IsBlankText s) :
    ∃ before word rest, s = before ++ word ++ rest ∧ IsBlankText before ∧ IsWord word ∧
      ∀ c ∈ rest.head?, isBlank c = true := by
  obtain ⟨before, behind, rfl, blank, stops⟩ := exists_first_run isBlank s
  cases behind with
  | nil =>
      rw [List.append_nil] at filled
      exact absurd blank filled
  | cons c r =>
      obtain ⟨word, rest, again, within, ends⟩ := exists_first_run (!isBlank ·) (c :: r)
      have some_word : word ≠ [] := by
        rintro rfl
        have stopped := ends c (by rw [List.nil_append] at again; rw [← again]; rfl)
        rw [stops c rfl] at stopped
        cases stopped
      refine ⟨before, word, rest, ?_, blank, ⟨some_word, ?_⟩, ?_⟩
      · rw [again, List.append_assoc]
      · exact fun d member => by simpa using within d member
      · exact fun d head => by simpa using ends d head

theorem has_words (s : Text) : HasWords s s.words := by
  induction h : s.length using Nat.strong_induction_on generalizing s with
  | _ n ih =>
      by_cases blank : IsBlankText s
      · rw [words_of_blank s blank]
        exact .none s blank
      · obtain ⟨before, word, rest, rfl, blank, isWord, ends⟩ := exists_first_word s blank
        have shorter : rest.length < n := by
          have some_word := List.length_pos_iff.mpr isWord.some_word
          rw [← h, List.length_append, List.length_append]
          omega
        have read : words (before ++ word ++ rest) = word :: words rest := by
          rw [List.append_assoc, words_blank before _ blank, words_append word rest isWord ends]
        rw [read]
        exact .cons before word rest (words rest) blank isWord ends (ih _ shorter rest rfl)

theorem words_eq_iff (s : Text) (found : List Text) : s.words = found ↔ HasWords s found := by
  constructor
  · intro read
    rw [← read]
    exact has_words s
  · exact words_of_has_words s found

end ContentFilter.Text
