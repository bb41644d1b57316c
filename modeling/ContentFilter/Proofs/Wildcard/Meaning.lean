import ContentFilter.Proofs.Regex.Matching
import ContentFilter.Proofs.Regex.Sets
import ContentFilter.Proofs.Text.Cuts
import ContentFilter.Proofs.Unicode.CaseClasses
import ContentFilter.Proofs.Wildcard.Room

namespace ContentFilter

namespace Regex

def SpansAll (t : Text) : List Regex → Nat → Nat → Prop
  | [], i, j => i = j
  | r :: rest, i, j => ∃ k, Spans t r i k ∧ SpansAll t rest k j

theorem spans_seq_all (t : Text) (rs : List Regex) (i j : Nat) :
    Spans t (.seqAll rs) i j ↔ SpansAll t rs i j := by
  match rs with
  | [] => rfl
  | [r] => simp [seqAll, SpansAll]
  | r :: r' :: rest =>
    have tail (k : Nat) := spans_seq_all t (r' :: rest) k j
    simp only [seqAll, Spans, tail, SpansAll]

theorem spans_all_append (t : Text) (front back : List Regex) (i j : Nat) :
    SpansAll t (front ++ back) i j ↔ ∃ k, SpansAll t front i k ∧ SpansAll t back k j := by
  induction front generalizing i with
  | nil => simp [SpansAll]
  | cons r front ih =>
      simp only [List.cons_append, SpansAll, ih]
      constructor
      · rintro ⟨k, first, l, middle, last⟩
        exact ⟨l, ⟨k, first, middle⟩, last⟩
      · rintro ⟨l, ⟨k, first, middle⟩, last⟩
        exact ⟨k, first, l, middle, last⟩

theorem spans_all_le_length (t : Text) (rs : List Regex) (i j : Nat) (spans : SpansAll t rs i j)
    (inside : i ≤ t.length) : j ≤ t.length :=
  (spans_bounds t (.seqAll rs) i j ((spans_seq_all t rs i j).mpr spans)).2 inside

def Run (t : Text) (p : Char → Prop) (i j : Nat) : Prop :=
  i ≤ j ∧ ∀ n, i ≤ n → n < j → ∃ c, t[n]? = some c ∧ p c

theorem run_trans (t : Text) (p : Char → Prop) (i k j : Nat) (front : Run t p i k)
    (back : Run t p k j) : Run t p i j := by
  refine ⟨front.1.trans back.1, ?_⟩
  intro n low high
  by_cases early : n < k
  · exact front.2 n low early
  · exact back.2 n (Nat.not_lt.mp early) high

theorem run_refl (t : Text) (p : Char → Prop) (i : Nat) : Run t p i i :=
  ⟨le_rfl, fun _ low high => absurd low (Nat.not_le.mpr high)⟩

theorem steps_one (t : Text) (s : CharSet) (n i j : Nat) :
    Steps (Spans t (.one s)) n i j ↔ j = i + n ∧ Run t (s.has · = true) i j := by
  induction n generalizing i with
  | zero =>
      constructor
      · rintro rfl
        exact ⟨rfl, run_refl t _ i⟩
      · rintro ⟨rfl, -⟩
        rfl
  | succ n ih =>
      constructor
      · rintro ⟨k, ⟨rfl, present⟩, rest⟩
        obtain ⟨rfl, -, all⟩ := (ih (i + 1)).mp rest
        refine ⟨by omega, by omega, ?_⟩
        intro m low high
        rcases low.eq_or_lt with rfl | later
        · exact present
        · exact all m later high
      · rintro ⟨rfl, -, all⟩
        refine ⟨i + 1, ⟨rfl, all i le_rfl (by omega)⟩, (ih (i + 1)).mpr ⟨by omega, by omega, ?_⟩⟩
        exact fun m low high => all m (by omega) high

theorem spans_star_one (t : Text) (s : CharSet) (i j : Nat) :
    Spans t (.star (.one s)) i j ↔ Run t (s.has · = true) i j := by
  constructor
  · rintro ⟨n, -, -, steps⟩
    exact ((steps_one t s n i j).mp steps).2
  · intro run
    refine ⟨j - i, Nat.zero_le _, by simp, (steps_one t s _ i j).mpr ⟨?_, run⟩⟩
    exact (Nat.add_sub_of_le run.1).symm

theorem spans_optional (t : Text) (r : Regex) (i j : Nat) :
    Spans t (.optional r) i j ↔ i = j ∨ Spans t r i j := by
  constructor
  · rintro ⟨n, -, few, steps⟩
    have most := few 1 rfl
    match n, most, steps with
    | 0, _, still => exact Or.inl still
    | 1, _, ⟨k, once, same⟩ => exact Or.inr (same ▸ once)
  · rintro (same | once)
    · exact ⟨0, le_rfl, by simp, same⟩
    · exact ⟨1, Nat.zero_le _, by simp, j, once, rfl⟩

theorem spans_text_start (t : Text) (i j : Nat) (inside : i ≤ t.length) :
    Spans t (.look .textStart) i j ↔ i = 0 ∧ j = 0 := by
  cases i with
  | zero => simp [Spans, Look.holds, before, eq_comm]
  | succ i => simp [Spans, Look.holds, before, List.getElem?_eq_getElem inside]

theorem spans_text_end (t : Text) (i j : Nat) (inside : i ≤ t.length) :
    Spans t (.look .textEnd) i j ↔ i = t.length ∧ i = j := by
  simp only [Spans, Look.holds, Option.isNone_iff_eq_none, List.getElem?_eq_none_iff]
  constructor
  · rintro ⟨same, beyond⟩
    exact ⟨le_antisymm inside beyond, same⟩
  · rintro ⟨last, same⟩
    exact ⟨same, last.ge⟩

end Regex

namespace Wildcard

open Regex Unicode

theorem spans_caseless (t : Text) (s : CharSet) (i j : Nat) :
    Spans t (caseless s) i j ↔
      j = i + 1 ∧ ∃ c, t[i]? = some c ∧ ∃ l ∈ sameCase c, s.has l = true := by
  simp only [caseless, Spans, folded_has]

theorem spans_literal (t : Text) (a : Char) (i j : Nat) :
    Spans t (literal a) i j ↔ j = i + 1 ∧ ∃ c, t[i]? = some c ∧ a ∈ sameCase c := by
  simp only [literal, spans_caseless, single_has, exists_eq_right]

theorem spans_sign (t : Text) (sign : Char) (i j : Nat) (ascii : sign.toNat < 128)
    (other : isAsciiLetter sign = false) :
    Spans t (literal sign) i j ↔ j = i + 1 ∧ t[i]? = some sign := by
  simp only [spans_literal, mem_same_case_sign _ sign ascii other, exists_eq_right]

theorem letters_has (l : Char) : letters.has l = true ↔ isAsciiLetter l = true := by
  simp [letters, union_all_has, CharSet.asciiLower, CharSet.asciiUpper, CharSet.has, isAsciiLetter]

theorem scheme_chars_has (l : Char) :
    schemeChars.has l = true ↔
      isAsciiLetter l = true ∨ isAsciiDigit l = true ∨ l ∈ ['+', '.', '-'] := by
  simp [schemeChars, union_all_has, single_has, CharSet.asciiLower, CharSet.asciiUpper,
    CharSet.asciiDigit, CharSet.has, isAsciiLetter, isAsciiDigit, or_assoc]

theorem others_authority (c : Char) :
    (CharSet.compl (.folded .simple authorityEnds)).has c = true ↔ c ∉ ['/', '?', '#'] := by
  have folded : (CharSet.folded .simple authorityEnds).has c = true ↔ c ∈ ['/', '?', '#'] := by
    simp only [folded_has, authorityEnds, union_all_has]
    simp [single_has, and_or_left, exists_or, mem_same_case_sign, isAsciiLetter]
  rw [CharSet.has, Bool.not_eq_true', Bool.eq_false_iff, ne_eq, folded]

theorem non_separators_has (l : Char) :
    nonSeparators.has l = true ↔ wordRanges.has l = true ∨ l ∈ ['-', '.', '%'] := by
  simp [nonSeparators, union_all_has, single_has, CharSet.word, CharSet.has]

theorem others_separators (c : Char) :
    (CharSet.compl (.folded .simple nonSeparators)).has c = true ↔ isSeparator c = true := by
  have folded : (CharSet.folded .simple nonSeparators).has c = true ↔
      wordRanges.has c = true ∨ c ∈ ['-', '.', '%'] := by
    rw [folded_has]
    constructor
    · rintro ⟨l, same, found⟩
      rcases (non_separators_has l).mp found with word | sign
      · exact Or.inl (same_case_word c l same ▸ word)
      · have ascii : l.toNat < 128 ∧ isAsciiLetter l = false := by
          simp only [List.mem_cons, List.not_mem_nil, or_false] at sign
          rcases sign with rfl | rfl | rfl <;> decide
        obtain ⟨low, other⟩ := ascii
        exact Or.inr ((mem_same_case_sign c l low other).mp same ▸ sign)
    · intro found
      exact ⟨c, self_mem_same_case c, (non_separators_has c).mpr found⟩
  rw [CharSet.has, Bool.not_eq_true', Bool.eq_false_iff, ne_eq, folded]
  simp [isSeparator]

theorem spans_any_run (t : Text) (i j : Nat) :
    Spans t anyRunRegex i j ↔ Run t (· ≠ '\n') i j := by
  have plain (c : Char) : (CharSet.compl .newline).has c = true ↔ c ≠ '\n' := by
    rw [CharSet.has, Bool.not_eq_true', Bool.eq_false_iff, ne_eq, CharSet.newline, single_has]
  rw [anyRunRegex, spans_star_one]
  simp only [plain]

theorem spans_separator (t : Text) (i j : Nat) (inside : i ≤ t.length) :
    Spans t separatorRegex i j ↔
      (j = i + 1 ∧ ∃ c, t[i]? = some c ∧ isSeparator c = true) ∨ i = t.length ∧ i = j := by
  rw [separatorRegex, Spans, Spans, spans_text_end t i j inside]
  simp only [others, Spans, others_separators]

theorem reads_any_run (t : Text) (rest : List Token) (i j : Nat) :
    Reads t (.anyRun :: rest) i j ↔ ∃ k, Run t (· ≠ '\n') i k ∧ Reads t rest k j := by
  simp only [Reads, Run, and_assoc]

theorem reads_any_run_twice (t : Text) (rest : List Token) (i j : Nat) :
    Reads t (.anyRun :: .anyRun :: rest) i j ↔ Reads t (.anyRun :: rest) i j := by
  simp only [reads_any_run]
  constructor
  · rintro ⟨k, front, l, back, read⟩
    exact ⟨l, run_trans t _ i k l front back, read⟩
  · rintro ⟨k, front, read⟩
    exact ⟨k, front, k, run_refl t _ k, read⟩

theorem reads_cons_congr (t : Text) (token : Token) (front back : List Token) (j : Nat)
    (same : ∀ i, Reads t front i j ↔ Reads t back i j) (i : Nat) :
    Reads t (token :: front) i j ↔ Reads t (token :: back) i j := by
  cases token <;> simp only [Reads, same]

theorem reads_merge_runs (t : Text) (body : List Token) (j : Nat) :
    (∀ i, Reads t (mergeRuns false body) i j ↔ Reads t body i j) ∧
      ∀ i, Reads t (.anyRun :: mergeRuns true body) i j ↔ Reads t (.anyRun :: body) i j := by
  induction body with
  | nil => exact ⟨fun _ => Iff.rfl, fun _ => Iff.rfl⟩
  | cons token rest ih =>
      obtain ⟨fresh, afterRun⟩ := ih
      cases token with
      | anyRun =>
          refine ⟨afterRun, fun i => ?_⟩
          rw [reads_any_run_twice]
          exact afterRun i
      | separator =>
          have kept := reads_cons_congr t .separator _ _ j fresh
          exact ⟨kept, reads_cons_congr t .anyRun _ _ j kept⟩
      | char c =>
          have kept := reads_cons_congr t (.char c) _ _ j fresh
          exact ⟨kept, reads_cons_congr t .anyRun _ _ j kept⟩

theorem spans_tokens (t : Text) (tokens : List Token) (i j : Nat) (inside : i ≤ t.length) :
    SpansAll t (tokens.map tokenRegex) i j ↔ Reads t tokens i j := by
  induction tokens generalizing i with
  | nil => rfl
  | cons token rest ih =>
      rw [List.map_cons, SpansAll]
      have tail (k : Nat) (first : Spans t (tokenRegex token) i k) :
          SpansAll t (rest.map tokenRegex) k j ↔ Reads t rest k j :=
        ih k ((spans_bounds t _ i k first).2 inside)
      rw [exists_congr fun k => and_congr_right (tail k)]
      cases token with
      | anyRun => simp only [tokenRegex, spans_any_run, reads_any_run]
      | separator =>
          simp only [tokenRegex, spans_separator t i _ inside, Reads, or_and_right, exists_or]
          constructor
          · rintro (⟨k, ⟨rfl, c, present, ends⟩, read⟩ | ⟨k, ⟨last, rfl⟩, read⟩)
            · exact Or.inl ⟨c, present, ends, read⟩
            · exact Or.inr ⟨last, read⟩
          · rintro (⟨c, present, ends, read⟩ | ⟨last, read⟩)
            · exact Or.inl ⟨i + 1, ⟨rfl, c, present, ends⟩, read⟩
            · exact Or.inr ⟨i, ⟨last, rfl⟩, read⟩
      | char a =>
          simp only [tokenRegex, spans_literal, Reads]
          constructor
          · rintro ⟨k, ⟨rfl, c, present, same⟩, read⟩
            exact ⟨c, present, same, read⟩
          · rintro ⟨c, present, same, read⟩
            exact ⟨i + 1, ⟨rfl, c, present, same⟩, read⟩

theorem drop_of_present (t : Text) (k : Nat) (c : Char) (present : t[k]? = some c) :
    t.drop k = c :: t.drop (k + 1) := by
  obtain ⟨inside, rfl⟩ := List.getElem?_eq_some_iff.mp present
  exact List.drop_eq_getElem_cons inside

def IsSchemeChar (d : Char) : Prop :=
  ∃ l ∈ sameCase d, isAsciiLetter l = true ∨ isAsciiDigit l = true ∨ l ∈ ['+', '.', '-']

theorem scheme_ends_iff (t : Text) (i : Nat) :
    SchemeEnds t i ↔
      (∃ c, t[0]? = some c ∧ ∃ l ∈ sameCase c, isAsciiLetter l = true) ∧
        ∃ k, Run t IsSchemeChar 1 k ∧ t[k]? = some ':' ∧ t[k + 1]? = some '/' ∧
          t[k + 2]? = some '/' ∧ i = k + 3 := by
  constructor
  · rintro ⟨c, scheme, rest, rfl, rfl, letter, chars⟩
    refine ⟨⟨c, rfl, letter⟩, scheme.length + 1, ⟨by omega, ?_⟩, ?_, ?_, ?_, rfl⟩
    · intro n low high
      obtain ⟨m, rfl⟩ := Nat.exists_eq_add_of_le' low
      have inside : m < scheme.length := by omega
      refine ⟨scheme[m], ?_, chars _ (List.getElem_mem inside)⟩
      simp [List.getElem?_append_left inside]
    · simp
    · simp
    · simp
  · rintro ⟨⟨c, first, letter⟩, k, ⟨low, chars⟩, colon, slash, slash', rfl⟩
    obtain ⟨r, rfl⟩ : ∃ r, t = c :: r := ⟨t.drop 1, drop_of_present t 0 c first⟩
    obtain ⟨m, rfl⟩ := Nat.exists_eq_add_of_le' low
    have inside : m < r.length := by
      have bound := (List.getElem?_eq_some_iff.mp colon).1
      simpa using bound
    have tail : r.drop m = ':' :: '/' :: '/' :: r.drop (m + 3) := by
      rw [drop_of_present r m ':' colon, drop_of_present r (m + 1) '/' slash,
        drop_of_present r (m + 2) '/' slash']
    refine ⟨c, r.take m, r.drop (m + 3), ?_, ?_, letter, ?_⟩
    · rw [List.cons_append, ← tail, List.take_append_drop]
    · rw [List.length_take_of_le inside.le]
    · intro d member
      obtain ⟨n, early, rfl⟩ := List.mem_take_iff_getElem.mp member
      obtain ⟨d, present, isChar⟩ := chars (n + 1) (by omega) (by omega)
      rw [List.getElem?_cons_succ] at present
      obtain ⟨_, same⟩ := List.getElem?_eq_some_iff.mp present
      exact same ▸ isChar

theorem spans_labels (t : Text) (i j : Nat) :
    Spans t labelsRegex i j ↔ ∃ k, i ≤ k ∧ j = k + 1 ∧ t[k]? = some '.' ∧
      ∀ n, i ≤ n → n < k → ∃ c, t[n]? = some c ∧ c ∉ ['/', '?', '#'] := by
  rw [labelsRegex, Spans, Spans]
  simp only [others, spans_star_one, others_authority, Run,
    spans_sign t '.' _ _ (by decide) (by decide)]
  constructor
  · rintro ⟨k, ⟨low, all⟩, rfl, dot⟩
    exact ⟨k, low, rfl, dot, all⟩
  · rintro ⟨k, low, rfl, dot, all⟩
    exact ⟨k, ⟨low, all⟩, rfl, dot⟩

theorem spans_scheme (t : Text) (i j : Nat) (inside : i ≤ t.length) :
    SpansAll t schemeRegexes i j ↔ i = 0 ∧ SchemeEnds t j := by
  have chars (i j : Nat) : Spans t (.star (caseless schemeChars)) i j ↔ Run t IsSchemeChar i j := by
    rw [caseless, spans_star_one]
    simp only [folded_has, scheme_chars_has, Run, IsSchemeChar]
  rw [scheme_ends_iff]
  simp only [schemeRegexes, SpansAll, chars, spans_text_start t i _ inside, spans_caseless,
    letters_has, spans_sign t ':' _ _ (by decide) (by decide),
    spans_sign t '/' _ _ (by decide) (by decide)]
  constructor
  · rintro ⟨_, ⟨start, rfl⟩, _, ⟨rfl, letter⟩, k, run, _, ⟨rfl, colon⟩, _, ⟨rfl, slash⟩, _,
      ⟨rfl, slash'⟩, rfl⟩
    exact ⟨start, letter, k, run, colon, slash, slash', rfl⟩
  · rintro ⟨start, letter, k, run, colon, slash, slash', rfl⟩
    exact ⟨0, ⟨start, rfl⟩, 1, ⟨rfl, letter⟩, k, run, k + 1, ⟨rfl, colon⟩, k + 2, ⟨rfl, slash⟩,
      k + 3, ⟨rfl, slash'⟩, rfl⟩

theorem spans_anchor (t : Text) (anchor : Anchor) (i : Nat) :
    (∃ s, s ≤ t.length ∧ SpansAll t (anchorRegexes anchor) s i) ↔ Anchored t anchor i := by
  cases anchor with
  | anywhere => simp [anchorRegexes, SpansAll, Anchored]
  | urlStart =>
      simp only [anchorRegexes, SpansAll, Anchored, exists_eq_right]
      constructor
      · rintro ⟨s, inside, start⟩
        exact ((spans_text_start t s i inside).mp start).2
      · rintro rfl
        exact ⟨0, Nat.zero_le _, (spans_text_start t 0 0 (Nat.zero_le _)).mpr ⟨rfl, rfl⟩⟩
  | domain =>
      simp only [anchorRegexes, spans_all_append, Anchored]
      constructor
      · rintro ⟨s, inside, k, scheme, i', labels, rfl⟩
        have ends := ((spans_scheme t s k inside).mp scheme).2
        refine ⟨k, ends, ?_⟩
        rcases (spans_optional t _ k i').mp labels with rfl | found
        · exact Or.inl rfl
        · exact Or.inr ((spans_labels t k i').mp found)
      · rintro ⟨k, ends, labels⟩
        have scheme := (spans_scheme t 0 k (Nat.zero_le _)).mpr ⟨rfl, ends⟩
        refine ⟨0, Nat.zero_le _, k, scheme, i, (spans_optional t _ k i).mpr ?_, rfl⟩
        exact labels.imp Eq.symm (spans_labels t k i).mpr

theorem spans_end (t : Text) (atEnd : Bool) (i j : Nat) (inside : i ≤ t.length) :
    SpansAll t (endRegexes atEnd) i j ↔ i = j ∧ (atEnd = true → j = t.length) := by
  cases atEnd with
  | false => simp [endRegexes, SpansAll]
  | true =>
      simp only [endRegexes, ↓reduceIte, SpansAll, exists_eq_right, forall_const]
      rw [spans_text_end t i j inside]
      constructor
      · rintro ⟨last, rfl⟩
        exact ⟨rfl, last⟩
      · rintro ⟨rfl, last⟩
        exact ⟨last, rfl⟩

/-- The expression of a filter occurs where the filter is found. -/
theorem occurs_in_regex (w : Wildcard) (t : Text) : OccursIn w.regex t ↔ w.Accepts t := by
  have body (i j : Nat) (inside : i ≤ t.length) :
      SpansAll t ((mergeRuns false w.body).map tokenRegex) i j ↔ Reads t w.body i j :=
    (spans_tokens t _ i j inside).trans ((reads_merge_runs t w.body j).1 i)
  simp only [OccursIn, regex, spans_seq_all, spans_all_append, Accepts]
  constructor
  · rintro ⟨s, e, inside, j, ⟨i, anchor, tokens⟩, atEnd⟩
    have within := spans_all_le_length t _ s i anchor inside
    obtain ⟨rfl, last⟩ :=
      (spans_end t w.atEnd j e (spans_all_le_length t _ i j tokens within)).mp atEnd
    exact ⟨i, j, (spans_anchor t w.anchor i).mp ⟨s, inside, anchor⟩,
      (body i j within).mp tokens, last⟩
  · rintro ⟨i, j, anchored, read, last⟩
    obtain ⟨s, inside, anchor⟩ := (spans_anchor t w.anchor i).mpr anchored
    have within := spans_all_le_length t _ s i anchor inside
    have tokens := (body i j within).mpr read
    exact ⟨s, j, inside, j, ⟨i, anchor, tokens⟩,
      (spans_end t w.atEnd j j (spans_all_le_length t _ i j tokens within)).mpr ⟨rfl, last⟩⟩

end Wildcard

namespace Pattern

theorem expression_none (s : Text)
    (plain : ¬ (2 < s.length ∧ s.head? = some '/' ∧ s.getLast? = some '/')) :
    expression? s = none := by
  unfold expression?
  split
  · rename_i r
    rw [Option.filter_eq_none_iff]
    intro front found
    obtain rfl := Text.strip_last_some '/' r front found
    by_contra written
    refine plain ⟨?_, rfl, by simp [List.getLast?_cons]⟩
    have long : 0 < front.length := List.length_pos_iff.mpr (by simpa using written)
    simp only [List.length_cons, List.length_append, List.length_nil]
    omega
  · rfl

theorem compile_wildcard (s : Text) (plain : expression? s = none) :
    compile s =
      if Regex.Room.fits (Wildcard.ofText s).regex then .ok ⟨(Wildcard.ofText s).regex⟩
      else .error .tooLarge := by
  rw [compile, regex?, plain, Option.getD_none, Wildcard.read_expression]

theorem compile_checked (s : Text) (check : Regex → Bool)
    (checked : (regex? s).any (fun r => Regex.Room.fits r && check r) = true) :
    ∃ r, compile s = .ok ⟨r⟩ ∧ check r = true := by
  obtain ⟨r, read, both⟩ := (Option.any_eq_true _ _).mp checked
  obtain ⟨fits, holds⟩ := Bool.and_eq_true_iff.mp both
  refine ⟨r, ?_, holds⟩
  rw [compile, read]
  exact if_pos fits

theorem compile_small (s : Text) (plain : expression? s = none)
    (small : ((Wildcard.ofText s).body.map Wildcard.tokenRoom).sum ≤ 10000000) :
    compile s = .ok ⟨(Wildcard.ofText s).regex⟩ :=
  (compile_wildcard s plain).trans (if_pos (Wildcard.fits_of_tokens _ small))

theorem occurs_in_wildcard (s : Text) (plain : expression? s = none) (p : Pattern)
    (compiled : compile s = .ok p) (url : Text) :
    p.occursIn url = true ↔ (Wildcard.ofText s).Accepts url := by
  rw [compile_wildcard s plain] at compiled
  split at compiled
  · obtain rfl := Except.ok.inj compiled
    calc occursIn ⟨(Wildcard.ofText s).regex⟩ url = true
      _ ↔ Regex.OccursIn (Wildcard.ofText s).regex url := Regex.occurs_in_iff _ url
      _ ↔ (Wildcard.ofText s).Accepts url := Wildcard.occurs_in_regex _ url
  · cases compiled

/-- A filter that is no expression in slashes is never malformed, and where it compiles it is found
in just the URLs that it accepts when it is read directly. -/
theorem compile_wildcard_exact (s : Text)
    (plain : ¬ (2 < s.length ∧ s.head? = some '/' ∧ s.getLast? = some '/')) :
    compile s ≠ .error .malformed ∧
      ∀ p, compile s = .ok p → ∀ url : Text,
        p.occursIn url = true ↔ (Wildcard.ofText s).Accepts url := by
  have read : regex? s = some (Wildcard.ofText s).regex := by
    calc regex? s
      _ = Regex.read? (Wildcard.ofText s).expression := by
          rw [regex?, expression_none s plain, Option.getD_none]
      _ = some (Wildcard.ofText s).regex := Wildcard.read_expression (Wildcard.ofText s)
  rw [compile, read]
  dsimp only
  split
  · refine ⟨by simp, ?_⟩
    intro p compiled url
    obtain rfl := Except.ok.inj compiled
    calc occursIn ⟨(Wildcard.ofText s).regex⟩ url = true
      _ ↔ Regex.OccursIn (Wildcard.ofText s).regex url := Regex.occurs_in_iff _ url
      _ ↔ (Wildcard.ofText s).Accepts url := Wildcard.occurs_in_regex _ url
  · exact ⟨by simp, fun p compiled => by cases compiled⟩

/-- A filter on a domain compiles; it accepts a URL of a subdomain and none of a longer domain. -/
theorem compile_domain_filter :
    ∃ p, compile "||ads.example^".toList = .ok p ∧
      (Wildcard.ofText "||ads.example^".toList).Accepts "https://img.ads.example/1.gif".toList ∧
        ¬ (Wildcard.ofText "||ads.example^".toList).Accepts "https://ads.example.org/".toList := by
  have compiled := compile_small "||ads.example^".toList rfl (by decide)
  have occurs_iff := (compile_wildcard_exact "||ads.example^".toList (by decide)).2 _ compiled
  refine ⟨_, compiled, (occurs_iff _).mp (by decide +kernel), ?_⟩
  intro accepted
  exact absurd ((occurs_iff _).mpr accepted) (by decide +kernel)

end Pattern

end ContentFilter
