import ContentFilter.Unicode.Ranges
import Mathlib.Data.Nat.Bitwise
/-!
Sets of code points as numbers, with one bit for each code point. Whether two tables have a code
point in common, or one lies within the other, is so decided by one operation on two numbers.
-/
namespace ContentFilter.Unicode

def bitsOf (codes : List Nat) : Nat := codes.foldr (fun n bits => 1 <<< n ||| bits) 0

theorem bits_of_test (codes : List Nat) (n : Nat) :
    (bitsOf codes).testBit n = true ↔ n ∈ codes := by
  induction codes with
  | nil => simp [bitsOf]
  | cons m codes ih =>
      rw [bitsOf, List.foldr_cons, Nat.testBit_or, ← bitsOf, Nat.one_shiftLeft, Nat.testBit_two_pow,
        Bool.or_eq_true, ih, decide_eq_true_eq, List.mem_cons, eq_comm]

namespace Ranges

def codes (ranges : Ranges) : List Nat :=
  ranges.flatMap fun range => List.range' range.1 (range.2 + 1 - range.1)

theorem mem_codes (ranges : Ranges) (n : Nat) (has : ranges.hasCode n = true) :
    n ∈ ranges.codes := by
  induction ranges with
  | nil => cases has
  | cons range rest ih =>
      rw [hasCode] at has
      rw [codes, List.flatMap_cons, List.mem_append]
      split at has
      · cases has
      · rcases Bool.or_eq_true_iff.mp has with here | later
        · have last := of_decide_eq_true here
          exact Or.inl (List.mem_range'_1.mpr ⟨by omega, by omega⟩)
        · exact Or.inr (ih later)

def bits : Ranges → Nat
  | [] => 0
  | (first, last) :: rest => (1 <<< (last + 1 - first) - 1 ||| bits rest >>> first) <<< first

theorem bits_test (ranges : Ranges) (n : Nat) : ranges.bits.testBit n = ranges.hasCode n := by
  induction ranges with
  | nil => rw [bits, Nat.zero_testBit, hasCode]
  | cons range rest ih =>
      obtain ⟨first, last⟩ := range
      rw [bits, hasCode, Nat.testBit_shiftLeft, Nat.testBit_or, Nat.testBit_shiftRight,
        Nat.one_shiftLeft, Nat.testBit_two_pow_sub_one]
      by_cases before : n < first
      · rw [if_pos before, decide_eq_false (by omega), Bool.false_and]
      · rw [if_neg before, decide_eq_true (by omega), Bool.true_and,
          Nat.add_sub_cancel' (by omega), ih]
        congr 1
        rw [decide_eq_decide]
        omega

end Ranges

def areApart (bits others : Nat) : Bool := bits &&& others == 0

theorem test_of_apart (bits others : Nat) (apart : areApart bits others = true) (n : Nat)
    (here : bits.testBit n = true) : others.testBit n = false := by
  have both := congrArg (·.testBit n) (eq_of_beq apart)
  simpa [Nat.testBit_and, here] using both

def areWithin (bits others : Nat) : Bool := bits ||| others == others

theorem test_of_within (bits others : Nat) (within : areWithin bits others = true) (n : Nat)
    (here : bits.testBit n = true) : others.testBit n = true := by
  have joined := congrArg (·.testBit n) (eq_of_beq within)
  simpa [Nat.testBit_or, here] using joined.symm

end ContentFilter.Unicode
