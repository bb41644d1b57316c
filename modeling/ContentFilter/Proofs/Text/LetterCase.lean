import ContentFilter.Proofs.Text.Cuts
import ContentFilter.Text.Basic
import ContentFilter.Unicode.Casing
import Mathlib

namespace ContentFilter

theorem to_lower_cases (c : Char) :
    c.toLower = c ∨ ∃ n, 'A'.toNat ≤ n ∧ n ≤ 'Z'.toNat ∧ c = Char.ofNat n := by
  by_cases capital : c.isUpper = true
  · obtain ⟨low, high⟩ := of_decide_eq_true capital
    refine Or.inr ⟨c.toNat, ?_, ?_, (Char.ofNat_toNat c).symm⟩
    · exact UInt32.le_iff_toNat_le.mp low
    · exact UInt32.le_iff_toNat_le.mp high
  · exact Or.inl (Char.toLower_eq_of_not_isUpper capital)

theorem of_capitals {p : Char → Char → Prop} (same : ∀ c, p c c)
    (checked : ∀ n ≤ 'Z'.toNat, 'A'.toNat ≤ n → p (Char.ofNat n) (Char.ofNat n).toLower) (c : Char) :
    p c c.toLower := by
  rcases to_lower_cases c with small | ⟨n, low, high, rfl⟩
  · rw [small]
    exact same c
  · exact checked n high low

theorem to_lower_eq_iff (c d : Char) (letterless : isAsciiLetter d = false) :
    c.toLower = d ↔ c = d := by
  constructor
  · intro found
    rcases to_lower_cases c with small | ⟨n, low, high, rfl⟩
    · exact small.symm.trans found
    · subst found
      revert n
      decide
  · intro same
    subst same
    rcases to_lower_cases c with small | ⟨n, low, high, rfl⟩
    · exact small
    · revert n
      decide

namespace Text

theorem ascii_lower_again (s : Text) : s.asciiLower.asciiLower = s.asciiLower := by
  simp [asciiLower]

theorem ascii_lower_is_empty (s : Text) : s.asciiLower.isEmpty = s.isEmpty := by
  rw [asciiLower, List.isEmpty_map]

theorem equal_ignoring_case_lower (s t : Text) :
    s.asciiLower.equalIgnoringCase t = s.equalIgnoringCase t := by
  rw [equalIgnoringCase, equalIgnoringCase, ascii_lower_again]

section cuts

variable (s sep : Text) (letterless : sep.any isAsciiLetter = false)

include letterless

theorem is_prefix_of_lower : sep.isPrefixOf s.asciiLower = sep.isPrefixOf s := by
  induction sep generalizing s with
  | nil => simp
  | cons c sep ih =>
      cases s with
      | nil => rfl
      | cons d s =>
          rw [List.any_cons, Bool.or_eq_false_iff] at letterless
          have here : (c == d.toLower) = (c == d) := by
            rw [Bool.eq_iff_iff, beq_iff_eq, beq_iff_eq, eq_comm,
              to_lower_eq_iff d c letterless.1, eq_comm]
          have later := ih s letterless.2
          rw [asciiLower] at later
          rw [asciiLower, List.map_cons, List.isPrefixOf_cons_cons, List.isPrefixOf_cons_cons, here, later]

theorem split_once_lower :
    s.asciiLower.splitOnce sep =
      (s.splitOnce sep).map fun (front, back) => (front.asciiLower, back.asciiLower) := by
  induction s with
  | nil => rfl
  | cons c s ih =>
      have here := is_prefix_of_lower (c :: s) sep letterless
      change splitOnce (c.toLower :: asciiLower s) sep = _
      change sep.isPrefixOf (c.toLower :: asciiLower s) = _ at here
      rw [splitOnce, splitOnce, here]
      split
      · simp [asciiLower, List.map_drop]
      · rw [ih, Option.map_map, Option.map_map]
        rfl

end cuts

theorem split_last_lower (s : Text) (sep : Char) (letterless : isAsciiLetter sep = false) :
    splitLast sep s.asciiLower =
      (s.splitLast sep).map fun (front, back) => (front.asciiLower, back.asciiLower) := by
  induction s with
  | nil => rfl
  | cons c s ih =>
      change splitLast sep (c.toLower :: asciiLower s) = _
      rw [splitLast, splitLast, ih]
      cases splitLast sep s with
      | some cut => rfl
      | none =>
          simp only [Option.map_none, to_lower_eq_iff c sep letterless]
          split <;> rfl

theorem take_while_lower (s : Text) (p : Char → Bool) (same : ∀ c : Char, p c.toLower = p c) :
    s.asciiLower.takeWhile p = asciiLower (s.takeWhile p) := by
  rw [asciiLower, asciiLower, List.takeWhile_map]
  congr 2
  funext c
  exact same c

theorem meets_cased_lower (s : Text) : meetsCased s.asciiLower = meetsCased s := by
  induction s with
  | nil => rfl
  | cons c s ih =>
      have ignored : Unicode.Latest.isCaseIgnorable c = Unicode.Latest.isCaseIgnorable c.toLower :=
        of_capitals (p := fun c d =>
          Unicode.Latest.isCaseIgnorable c = Unicode.Latest.isCaseIgnorable d)
          (fun _ => rfl) (by decide +kernel) c
      have cased : Unicode.Latest.isCased c = Unicode.Latest.isCased c.toLower :=
        of_capitals (p := fun c d => Unicode.Latest.isCased c = Unicode.Latest.isCased d)
          (fun _ => rfl) (by decide +kernel) c
      change meetsCased (c.toLower :: asciiLower s) = _
      rw [meetsCased, meetsCased, ignored, cased, ih]

theorem lower_char_lower (c : Char) : Unicode.lowerChar c.toLower = Unicode.lowerChar c :=
  of_capitals (p := fun c d => Unicode.lowerChar d = Unicode.lowerChar c)
    (fun _ => rfl) (by decide) c

theorem lower_from_lower (before s : Text) :
    lowerFrom before.asciiLower s.asciiLower = lowerFrom before s := by
  induction s generalizing before with
  | nil => rfl
  | cons c s ih =>
      have sigma := to_lower_eq_iff c 'Σ' (by decide)
      have later := ih (c :: before)
      change lowerFrom (asciiLower before) (c.toLower :: asciiLower s) = _
      change lowerFrom (c.toLower :: asciiLower before) (asciiLower s) = _ at later
      simp only [lowerFrom, sigma, meets_cased_lower, lower_char_lower, later]

theorem lower_ascii_lower (s : Text) : s.asciiLower.lower = s.lower := lower_from_lower [] s

end Text

end ContentFilter
