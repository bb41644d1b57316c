import ContentFilter.Proofs.Unicode.SmallLetters
import ContentFilter.Regex.Reader.Escape
import Mathlib.Order.Nat

namespace ContentFilter.Regex

open Unicode

theorem single_has (a c : Char) : (CharSet.single a).has c = true ↔ c = a := by
  simp only [CharSet.single, CharSet.has, Bool.and_eq_true, decide_eq_true_eq]
  constructor
  · intro found
    obtain ⟨low, high⟩ := found
    exact Char.le_antisymm high low
  · intro same
    rw [same]
    exact ⟨Char.le_refl a, Char.le_refl a⟩

theorem union_all_has (sets : List CharSet) (c : Char) :
    (CharSet.unionAll sets).has c = true ↔ ∃ s ∈ sets, s.has c = true := by
  match sets with
  | [] => simp [CharSet.unionAll, CharSet.none, CharSet.has]
  | [s] => simp [CharSet.unionAll]
  | s :: s' :: rest =>
    have tail := union_all_has (s' :: rest) c
    rw [CharSet.unionAll, CharSet.has, Bool.or_eq_true, tail]
    simp only [List.mem_cons, exists_eq_or_imp]
    exact List.cons_ne_nil s' rest

theorem folded_has (s : CharSet) (c : Char) :
    (CharSet.folded .simple s).has c = true ↔ ∃ l ∈ Unicode.sameCase c, s.has l = true := by
  rw [CharSet.has, Folding.variants, List.any_eq_true]

namespace CharSet

/-- The set does not tell apart the characters of a class. -/
def IsCaseless (s : CharSet) : Prop := ∀ c l, fold l = fold c → s.has l = s.has c

theorem caseless_any : IsCaseless any := fun _ _ _ => rfl

theorem caseless_compl (s : CharSet) (caseless : s.IsCaseless) : IsCaseless (compl s) :=
  fun c l same => congrArg not (caseless c l same)

theorem caseless_union (s t : CharSet) (first : s.IsCaseless) (second : t.IsCaseless) :
    IsCaseless (union s t) := by
  intro c l same
  rw [has, has, first c l same, second c l same]

theorem caseless_folded (s : CharSet) : IsCaseless (folded .simple s) := by
  intro c l same
  rw [Bool.eq_iff_iff]
  simp only [folded_has, same_case_iff, same]

theorem caseless_sign (sign : Char) (ascii : sign.toNat < 128)
    (other : isAsciiLetter sign = false) : IsCaseless (single sign) := by
  intro c l same
  have alone (d : Char) : d = sign ↔ fold sign = fold d := by
    rw [← same_case_iff, mem_same_case_sign d sign ascii other]
  rw [Bool.eq_iff_iff, single_has, single_has, alone, alone, same]

/-- A table that holds all letters that folding joins, or none of them, is caseless. -/
theorem caseless_table (ranges : Ranges) (all : Bool)
    (known : ∀ n, folds n = true → ranges.hasCode n = all) : IsCaseless (table ranges) := by
  intro c l same
  rcases same_case_folds c l ((same_case_iff c l).mpr same) with rfl | ⟨here, there⟩
  · rfl
  · rw [has, has, Ranges.has, Ranges.has, known _ here, known _ there]

theorem caseless_word : IsCaseless word := caseless_table wordRanges true folds_in_words

theorem caseless_digit : IsCaseless digit :=
  caseless_table _ false folds_no_digit

theorem caseless_space : IsCaseless space :=
  caseless_table _ false folds_no_space

end CharSet

end ContentFilter.Regex
