import ContentFilter.Proofs.Regex.Room
import ContentFilter.Proofs.Regex.SetRoom
import ContentFilter.Proofs.Wildcard.Reading

namespace ContentFilter.Wildcard

open Regex Regex.Room Unicode

theorem at_most_literal (c : Char) (ascii : c.toNat < 128) : partAtMost (literal c) ≤ 308 := by
  have checked : (List.range 128).all (fun n => partAtMost (literal (Char.ofNat n)) ≤ 308) = true := by
    decide +kernel
  have here := List.all_eq_true.mp checked c.toNat (List.mem_range.mpr ascii)
  rw [Char.ofNat_toNat] at here
  exact of_decide_eq_true here

theorem fold_non_separators :
    (CharSet.folded .simple nonSeparators).ranges = nonSeparators.ranges.union [] := by
  have within : areWithin (foldingSources ||| foldingImages) nonSeparators.ranges.bits = true := by
    decide +kernel
  apply foldingPairs.closure_of_all
  intro p member
  obtain ⟨source, image⟩ := folding_pair_test p member
  rw [← Ranges.bits_test, ← Ranges.bits_test]
  exact ⟨test_of_within _ _ within _ source, test_of_within _ _ within _ image⟩

set_option maxRecDepth 20000 in
theorem separators_at_most :
    setAtMost (nonSeparators.ranges.union []).compl
      (ByteRange.sequences (nonSeparators.ranges.union []).compl) ≤ 140000 := by decide +kernel

theorem at_most_others (s : CharSet) (ranges : Ranges)
    (set : (CharSet.folded .simple s).ranges.compl = ranges) :
    atMost (Regex.group none (.alt (others s) (.look .textEnd))).layout ≤
      setAtMost ranges (ByteRange.sequences ranges) + 420 := by
  have chosen (r : Layout) (single : r = .ofRanges ranges) :
      atMost (Layout.choice [r, .look .textEnd]) = atMost r + 116 := by
    subst single
    unfold Layout.ofRanges
    split
    · split <;> rfl
    · rfl
  have bound := at_most_of_ranges ranges
  have written : Layout.ofSet (.compl (.folded .simple s)) = .ofRanges ranges := by
    rw [← set]
    rfl
  change atMost (Layout.choice [Layout.ofSet (.compl (.folded .simple s)), .look .textEnd]) ≤ _
  rw [chosen _ written, written]
  omega

theorem at_most_separator : partAtMost separatorRegex ≤ 140424 := by
  have whole := at_most_others nonSeparators (nonSeparators.ranges.union []).compl
    (by rw [fold_non_separators])
  have small := separators_at_most
  rw [partAtMost, separatorRegex]
  -- What the parts take is not to be computed again.
  generalize setAtMost _ _ = set at whole small
  generalize atMost _ = room at whole ⊢
  omega

def tokenRoom : Token → Nat
  | .anyRun => 4096
  | .separator => 140424
  | .char c => if c.toNat < 128 then 308 else 9070964

theorem at_most_token (token : Token) : partAtMost (tokenRegex token) ≤ tokenRoom token := by
  cases token with
  | anyRun => decide +kernel
  | separator => exact at_most_separator
  | char c =>
      rw [tokenRoom]
      split
      · rename_i ascii
        exact at_most_literal c ascii
      · exact Nat.add_le_add_right (at_most_letter c) 4

theorem merge_runs_sublist (afterRun : Bool) (tokens : List Token) :
    (mergeRuns afterRun tokens).Sublist tokens := by
  induction tokens generalizing afterRun with
  | nil => exact List.Sublist.slnil
  | cons token tokens ih =>
      cases token with
      | anyRun =>
          cases afterRun with
          | true => exact (ih true).cons .anyRun
          | false => exact (ih true).cons_cons .anyRun
      | separator => exact (ih false).cons_cons .separator
      | char c => exact (ih false).cons_cons (.char c)

theorem at_most_tokens (kept tokens : List Token) (sublist : kept.Sublist tokens) :
    ((kept.map tokenRegex).map partAtMost).sum ≤ (tokens.map tokenRoom).sum := by
  induction sublist with
  | slnil => exact Nat.le_refl 0
  | cons token _ ih =>
      rw [List.map_cons, List.sum_cons]
      omega
  | cons_cons token _ ih =>
      have here := at_most_token token
      simp only [List.map_cons, List.sum_cons]
      omega

theorem fits_of_tokens (w : Wildcard) (small : (w.body.map tokenRoom).sum ≤ 10000000) :
    fits w.regex = true := by
  have anchor (a : Anchor) : ((anchorRegexes a).map partAtMost).sum ≤ 8192 := by
    cases a <;> decide +kernel
  have ended (atEnd : Bool) :
      ((endRegexes atEnd).map partAtMost).sum ≤ 36 := by
    cases atEnd <;> decide +kernel
  have tokens := at_most_tokens _ w.body (merge_runs_sublist false w.body)
  have whole := at_most_seq_all
    (anchorRegexes w.anchor ++ (mergeRuns false w.body).map tokenRegex ++ endRegexes w.atEnd)
  have begun := anchor w.anchor
  have last := ended w.atEnd
  have limit : limit = 10485760 := by decide
  apply fits_of_at_most
  rw [List.map_append, List.map_append, List.sum_append, List.sum_append] at whole
  rw [regex, surrounds, limit]
  omega

end ContentFilter.Wildcard
