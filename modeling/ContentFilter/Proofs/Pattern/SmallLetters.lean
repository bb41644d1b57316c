import ContentFilter.Proofs.Regex.Reading
import ContentFilter.Proofs.Wildcard.HostFilters
/-!
Patterns and URLs in small letters. A pattern that ignores case is found in a URL just when it is
found in the URL in small letters. That leaves the few capitals whose small letter folding does not
know: a filter of such a capital alone is not found in its small letter.
-/
namespace ContentFilter

namespace Wildcard

open Regex

theorem caseless_one (s : CharSet) : (caseless s).IsCaseless := CharSet.caseless_folded s

theorem others_caseless (s : CharSet) : (others s).IsCaseless :=
  CharSet.caseless_compl _ (CharSet.caseless_folded s)

theorem token_caseless (token : Token) : (tokenRegex token).IsCaseless := by
  cases token with
  | anyRun =>
      exact CharSet.caseless_compl _ (CharSet.caseless_sign '\n' (by decide) (by decide))
  | separator => exact ⟨others_caseless nonSeparators, trivial⟩
  | char c => exact caseless_one (.single c)

theorem anchor_caseless (anchor : Anchor) : ∀ r ∈ anchorRegexes anchor, r.IsCaseless := by
  cases anchor with
  | anywhere => simp [anchorRegexes]
  | urlStart => simp [anchorRegexes, Regex.IsCaseless, Look.IsCaseless]
  | domain =>
      have labels : labelsRegex.IsCaseless := ⟨others_caseless authorityEnds, caseless_one _⟩
      intro r member
      simp only [anchorRegexes, schemeRegexes, List.cons_append, List.nil_append, List.mem_cons,
        List.not_mem_nil, or_false] at member
      rcases member with rfl | rfl | rfl | rfl | rfl | rfl | rfl
      · trivial
      · exact caseless_one letters
      · exact caseless_one schemeChars
      · exact caseless_one _
      · exact caseless_one _
      · exact caseless_one _
      · exact labels

theorem regex_caseless (w : Wildcard) : w.regex.IsCaseless := by
  apply seq_all_caseless
  intro r member
  rw [List.mem_append, List.mem_append] at member
  rcases member with (anchor | body) | last
  · exact anchor_caseless w.anchor r anchor
  · obtain ⟨token, -, rfl⟩ := List.mem_map.mp body
    exact token_caseless token
  · rw [endRegexes] at last
    split at last
    · rw [List.mem_singleton.mp last]
      trivial
    · cases last

end Wildcard

namespace Pattern

open Unicode

/-- Case is ignored in all parts of the pattern: no flag in an expression turns that off. -/
def foldsCase (s : Text) : Bool := (expression? s).all Regex.foldsCase

theorem compile_caseless (s : Text) (p : Pattern) (compiled : compile s = .ok p)
    (folds : foldsCase s = true) : p.regex.IsCaseless := by
  rw [compile] at compiled
  split at compiled
  · cases compiled
  · rename_i regex read
    split at compiled
    · obtain rfl := Except.ok.inj compiled
      rw [regex?] at read
      cases written : expression? s with
      | none =>
          rw [written, Option.getD_none, Wildcard.read_expression] at read
          rw [← Option.some.inj read]
          exact Wildcard.regex_caseless _
      | some r =>
          rw [written, Option.getD_some] at read
          rw [foldsCase, written, Option.all_some] at folds
          exact Regex.read_caseless r folds regex read
    · cases compiled

theorem ne_of_beyond (c sign : Char) (beyond : 128 ≤ c.toNat) (ascii : sign.toNat < 128) :
    c ≠ sign := by
  intro same
  rw [same] at beyond
  omega

theorem letter_is_no_expression (c : Char) (beyond : 128 ≤ c.toNat) : expression? [c] = none := by
  unfold expression?
  split
  · rename_i r slash
    exact absurd (List.cons.inj slash).1 (ne_of_beyond c '/' beyond (by decide))
  · rfl

theorem occurs_in_letter (c : Char) (beyond : 128 ≤ c.toNat) :
    ∃ p, compile [c] = .ok p ∧
      ∀ t : Text, p.occursIn t = true ↔ ∃ d ∈ t, c ∈ sameCase d := by
  have other (sign : Char) (ascii : sign.toNat < 128) : c ≠ sign := ne_of_beyond c sign beyond ascii
  have read : Wildcard.ofText [c] = { anchor := .anywhere, body := [.char c], atEnd := false } := by
    have anchor : Wildcard.anchorOf [c] = (.anywhere, [c]) := by
      unfold Wildcard.anchorOf
      split
      · rename_i bar
        cases bar
      · rename_i bar
        exact absurd (List.cons.inj bar).1 (other '|' (by decide))
      · rfl
    have token : Token.ofChar c = .char c := by
      unfold Token.ofChar
      split
      · exact absurd rfl (other '*' (by decide))
      · exact absurd rfl (other '^' (by decide))
      · rfl
    have open_end : Text.stripLast? '|' [c] = none := if_neg (other '|' (by decide))
    rw [Wildcard.ofText, anchor]
    dsimp only
    rw [open_end, List.map_singleton, token]
  have regex : (Wildcard.ofText [c]).regex = Wildcard.literal c := by
    rw [read]
    rfl
  have small : ((Wildcard.ofText [c]).body.map Wildcard.tokenRoom).sum ≤ 10000000 := by
    have room : ([Token.char c].map Wildcard.tokenRoom).sum = 9070964 := by
      simp [Wildcard.tokenRoom, Nat.not_lt.mpr beyond]
    rw [read, room]
    decide
  refine ⟨⟨Wildcard.literal c⟩, ?_, ?_⟩
  · rw [compile_small [c] (letter_is_no_expression c beyond) small, regex]
  · intro t
    have found : occursIn ⟨Wildcard.literal c⟩ t = true ↔ Regex.OccursIn (Wildcard.literal c) t :=
      Regex.occurs_in_iff _ t
    rw [found, Regex.OccursIn]
    simp only [Wildcard.spans_literal]
    constructor
    · intro found
      obtain ⟨i, j, _, _, d, present, same⟩ := found
      exact ⟨d, List.mem_of_getElem? present, same⟩
    · intro found
      obtain ⟨d, member, same⟩ := found
      obtain ⟨i, inside, rfl⟩ := List.mem_iff_getElem.mp member
      exact ⟨i, i + 1, inside.le, rfl, t[i], List.getElem?_eq_getElem inside, same⟩

theorem unfolded_capitals_checked : unfoldedCapitals.codes.all (fun n => decide (128 ≤ n) &&
    (lowerChar (Char.ofNat n)).all fun d => !unfoldedCapitals.has d) = true := by decide +kernel

theorem unfolded_capital (c : Char) (unknown : unfoldedCapitals.has c = true) :
    128 ≤ c.toNat ∧ ∀ d ∈ lowerChar c, unfoldedCapitals.has d = false := by
  have member := Ranges.mem_codes unfoldedCapitals c.toNat unknown
  have checked := List.all_eq_true.mp unfolded_capitals_checked c.toNat member
  rw [Char.ofNat_toNat] at checked
  simpa using checked

theorem unfolded_alone (c d : Char) (unknown : unfoldedCapitals.has c = true)
    (same : c ∈ sameCase d) : c = d := by
  rcases same_case_folds d c same with alone | ⟨moved, -⟩
  · exact alone
  · rw [Ranges.has, folds_no_unfolded _ moved] at unknown
    cases unknown

theorem lower_has_no_unfolded (before s : Text) :
    ∀ d ∈ Text.lowerFrom before s, unfoldedCapitals.has d = false := by
  induction s generalizing before with
  | nil => exact fun d member => absurd member List.not_mem_nil
  | cons c s ih =>
      intro d member
      rw [Text.lowerFrom, List.mem_append] at member
      rcases member with here | later
      · split at here
        · have sigmas : unfoldedCapitals.has 'ς' = false ∧ unfoldedCapitals.has 'σ' = false := by
            decide
          rw [List.mem_singleton] at here
          split at here
          · exact here ▸ sigmas.1
          · exact here ▸ sigmas.2
        · by_cases unknown : unfoldedCapitals.has c = true
          · exact (unfolded_capital c unknown).2 d here
          · rw [Bool.not_eq_true] at unknown
            obtain ⟨l, lowered, folded⟩ := lower_char_folds c unknown
            rw [lowered, List.mem_singleton] at here
            subst here
            by_contra again
            rw [Bool.not_eq_false] at again
            rw [unfolded_alone d c again ((same_case_iff c d).mpr folded), unknown] at again
            cases again
      · exact ih (c :: before) d later

/-- Looking at the URL in small letters alone loses nothing just where the URL has none of a few
capitals: then a pattern that ignores case is found in the URL just when it is found there. -/
theorem small_letters_suffice (url : Text) :
    (∀ c ∈ url, unfoldedCapitals.has c = false) ↔
      ∀ (s : Text) (p : Pattern), compile s = .ok p → foldsCase s = true →
        p.occursIn url.lower = p.occursIn url := by
  constructor
  · intro known s p compiled folds
    exact Regex.occurs_in_folded _ _ (Text.lower_folds [] url known) p.regex
      (compile_caseless s p compiled folds)
  · intro alike c member
    by_contra unknown
    rw [Bool.not_eq_false] at unknown
    have beyond := (unfolded_capital c unknown).1
    obtain ⟨p, compiled, found⟩ := occurs_in_letter c beyond
    have folds : foldsCase [c] = true := by
      rw [foldsCase, letter_is_no_expression c beyond, Option.all_none]
    have lowered : p.occursIn url.lower = true := by
      rw [alike [c] p compiled folds]
      exact (found url).mpr ⟨c, member, self_mem_same_case c⟩
    obtain ⟨d, among, same⟩ := (found url.lower).mp lowered
    rw [unfolded_alone c d unknown same, lower_has_no_unfolded [] url d among] at unknown
    cases unknown

/-- An expression with classes and word ends ignores case throughout. In an expression that turns
that off, a capital is not found in small letters. -/
theorem flags_keep_capitals :
    (∃ p, compile "/\\b(?:Ads|[À-Ý]{2}\\d)/".toList = .ok p ∧
      p.occursIn (Text.lower "http://a.example/ÉÀ1".toList) =
        p.occursIn "http://a.example/ÉÀ1".toList ∧
      p.occursIn "http://a.example/ÉÀ1".toList = true) ∧
      ∃ p, compile "/(?-i)Ads/".toList = .ok p ∧ foldsCase "/(?-i)Ads/".toList = false ∧
        p.occursIn "http://a.example/Ads".toList = true ∧
        p.occursIn (Text.lower "http://a.example/Ads".toList) = false := by
  have classes := compile_checked "/\\b(?:Ads|[À-Ý]{2}\\d)/".toList
    (·.occursIn "http://a.example/ÉÀ1".toList) (by decide +kernel)
  have plain := compile_checked "/(?-i)Ads/".toList (fun r =>
    r.occursIn "http://a.example/Ads".toList &&
      !r.occursIn (Text.lower "http://a.example/Ads".toList)) (by decide +kernel)
  have known : "http://a.example/ÉÀ1".toList.all (unfoldedCapitals.has · == false) = true := by
    decide +kernel
  obtain ⟨r, compiled, occurs⟩ := classes
  obtain ⟨r', compiled', found⟩ := plain
  obtain ⟨here, gone⟩ := Bool.and_eq_true_iff.mp found
  refine ⟨⟨⟨r⟩, compiled, ?_, occurs⟩, ⟨r'⟩, compiled', by decide, here, ?_⟩
  · exact (small_letters_suffice _).mp
      (fun c member => eq_of_beq (List.all_eq_true.mp known c member)) _ ⟨r⟩ compiled
      (by decide +kernel)
  · exact (Bool.not_eq_true' _).mp gone

end Pattern

end ContentFilter
