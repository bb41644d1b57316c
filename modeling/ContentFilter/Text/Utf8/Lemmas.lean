import ContentFilter.Text.Utf8
import Mathlib.Algebra.GroupWithZero.Nat

namespace ContentFilter

theorem to_nat_of_valid (n : Nat) (valid : n.isValidChar) : (Char.ofNat n).toNat = n := by
  rw [Char.ofNat, dif_pos valid]
  rfl

namespace Utf8

theorem toNat_ofNat {n : Nat} (h : n < 256) : (UInt8.ofNat n).toNat = n := by
  simp [Nat.mod_eq_of_lt h]

theorem toNat_continuation (n : Nat) : (continuation n).toNat = 0x80 + n % 64 :=
  toNat_ofNat (by omega)

theorem step_begin {b : UInt8} {p : Pending} (h : begin b.toNat = ([], some p))
    (rest : List UInt8) : decodeFrom none (b :: rest) = decodeFrom (some p) rest := by
  simp [decodeFrom, step, h]

theorem step_more {p : Pending} {b : UInt8} {k : Nat} (low : p.low ≤ b.toNat)
    (high : b.toNat ≤ p.high) (more : p.later = k + 1) (rest : List UInt8) :
    decodeFrom (some p) (b :: rest) =
      decodeFrom (some { bits := p.bits * 64 + (b.toNat - 0x80), later := k }) rest := by
  simp [decodeFrom, step, low, high, Pending.next, more]

theorem step_last {p : Pending} {b : UInt8} (low : p.low ≤ b.toNat) (high : b.toNat ≤ p.high)
    (last : p.later = 0) (rest : List UInt8) :
    decodeFrom (some p) (b :: rest) =
      some (Char.ofNat (p.bits * 64 + (b.toNat - 0x80))) :: decodeFrom none rest := by
  simp [decodeFrom, step, low, high, Pending.next, last]

def digits : Nat → Nat → List UInt8
  | 0, _ => []
  | k + 1, n => continuation (n / 64 ^ k) :: digits k n

def lead (n : Nat) : Nat × Nat :=
  if n < 0x80 then (n, 0)
  else if n < 0x800 then (0xC0 + n / 64, 1)
  else if n < 0x10000 then (0xE0 + n / 4096, 2)
  else (0xF0 + n / 262144, 3)

theorem lead_cases (n : Nat) :
    n < 0x80 ∧ lead n = (n, 0) ∨ 0x80 ≤ n ∧ n < 0x800 ∧ lead n = (0xC0 + n / 64, 1) ∨
      0x800 ≤ n ∧ n < 0x10000 ∧ lead n = (0xE0 + n / 4096, 2) ∨
        0x10000 ≤ n ∧ lead n = (0xF0 + n / 262144, 3) := by
  unfold lead
  by_cases one : n < 0x80
  · exact Or.inl ⟨one, if_pos one⟩
  · rw [if_neg one]
    by_cases two : n < 0x800
    · exact Or.inr (Or.inl ⟨by omega, two, if_pos two⟩)
    · rw [if_neg two]
      by_cases three : n < 0x10000
      · exact Or.inr (Or.inr (Or.inl ⟨by omega, three, if_pos three⟩))
      · exact Or.inr (Or.inr (Or.inr ⟨by omega, if_neg three⟩))

theorem encode_char_digits (c : Char) :
    encodeChar c = UInt8.ofNat (lead c.toNat).1 :: digits (lead c.toNat).2 c.toNat := by
  unfold encodeChar lead
  simp only
  split
  · rfl
  · split
    · simp [digits]
    · split <;> simp [digits]

theorem continuation_eq_iff (n : Nat) (b : UInt8) :
    continuation n = b ↔ 0x80 + n % 64 = b.toNat := by
  rw [← UInt8.toNat_inj, toNat_continuation]

/-- The characters of which a pending one can be the beginning, by number. -/
def Pending.Covers (p : Pending) (n : Nat) : Prop :=
  n / 64 ^ (p.later + 1) = p.bits ∧ p.low ≤ 0x80 + n / 64 ^ p.later % 64 ∧
    0x80 + n / 64 ^ p.later % 64 ≤ p.high

def Pending.LedBy (p : Pending) (b : Nat) : Prop :=
  (0xC2 ≤ b ∧ b < 0xE0 ∧ p.bits = b - 0xC0 ∧ p.later = 0 ∧ p.low = 0x80 ∧ p.high = 0xBF) ∨
  (0xE0 ≤ b ∧ b < 0xF0 ∧ p.bits = b - 0xE0 ∧ p.later = 1 ∧
    (b = 0xE0 ∧ p.low = 0xA0 ∨ b ≠ 0xE0 ∧ p.low = 0x80) ∧
    (b = 0xED ∧ p.high = 0x9F ∨ b ≠ 0xED ∧ p.high = 0xBF)) ∨
  (0xF0 ≤ b ∧ b < 0xF5 ∧ p.bits = b - 0xF0 ∧ p.later = 2 ∧
    (b = 0xF0 ∧ p.low = 0x90 ∨ b ≠ 0xF0 ∧ p.low = 0x80) ∧
    (b = 0xF4 ∧ p.high = 0x8F ∨ b ≠ 0xF4 ∧ p.high = 0xBF))

theorem begin_cases (b : Nat) :
    (b < 0x80 ∧ begin b = ([some (Char.ofNat b)], none)) ∨
    ((0x80 ≤ b ∧ b < 0xC2 ∨ 0xF5 ≤ b) ∧ begin b = ([none], none)) ∨
    ∃ p : Pending, p.LedBy b ∧ begin b = ([], some p) := by
  have chosen (here : Prop) [Decidable here] (x y : Nat) :
      here ∧ (if here then x else y) = x ∨ ¬ here ∧ (if here then x else y) = y := by
    by_cases now : here <;> simp [now]
  unfold begin
  by_cases one : b < 0x80
  · exact Or.inl ⟨one, if_pos one⟩
  rw [if_neg one]
  by_cases tail : b < 0xC2
  · exact Or.inr (Or.inl ⟨by omega, if_pos tail⟩)
  rw [if_neg tail]
  by_cases two : b < 0xE0
  · rw [if_pos two]
    refine Or.inr (Or.inr ⟨_, ?_, rfl⟩)
    exact Or.inl ⟨by omega, two, rfl, rfl, rfl, rfl⟩
  rw [if_neg two]
  by_cases three : b < 0xF0
  · rw [if_pos three]
    refine Or.inr (Or.inr ⟨_, ?_, rfl⟩)
    exact Or.inr (Or.inl ⟨by omega, three, rfl, rfl, chosen _ _ _, chosen _ _ _⟩)
  rw [if_neg three]
  by_cases four : b < 0xF5
  · rw [if_pos four]
    refine Or.inr (Or.inr ⟨_, ?_, rfl⟩)
    exact Or.inr (Or.inr ⟨by omega, four, rfl, rfl, chosen _ _ _, chosen _ _ _⟩)
  · exact Or.inr (Or.inl ⟨by omega, if_neg four⟩)

theorem led_bounds (b : Nat) (p : Pending) (led : p.LedBy b) :
    0x80 ≤ p.low ∧ p.low ≤ p.high ∧ p.high ≤ 0xBF := by
  unfold Pending.LedBy at led
  omega

theorem led_covers (b : Nat) (p : Pending) (led : p.LedBy b) (n : Nat) :
    (p.Covers n ↔ n.isValidChar ∧ (lead n).1 = b) ∧
      (p.Covers n → (lead n).2 = p.later + 1) := by
  unfold Nat.isValidChar
  rcases led with ⟨first, last, bits, more, low, high⟩ | ⟨first, last, bits, more, low, high⟩ |
    ⟨first, last, bits, more, low, high⟩
  -- a first byte is set against each length; the lengths that are not its own exclude each other
  all_goals
    rcases lead_cases n with ⟨small, is⟩ | ⟨large, small, is⟩ | ⟨large, small, is⟩ | ⟨large, is⟩
  all_goals
    simp only [Pending.Covers, more, bits, low, high, is, Nat.reduceAdd, Nat.reducePow, Nat.div_one]
    constructor
    · omega
    · intro covered
      first | exact trivial | omega

theorem lead_range (c : Char) :
    (lead c.toNat).1 < 0x80 ∨ 0xC2 ≤ (lead c.toNat).1 ∧ (lead c.toNat).1 < 0xF5 := by
  have valid : c.toNat < 0xD800 ∨ (0xDFFF < c.toNat ∧ c.toNat < 0x110000) := c.valid
  rcases lead_cases c.toNat with ⟨small, is⟩ | ⟨_, small, is⟩ | ⟨_, small, is⟩ | ⟨large, is⟩
  all_goals
    rw [is]
    omega

/-- The digits that are still to be read complete the character. -/
theorem decode_digits (p : Pending) (n k : Nat) (later : p.later = k) (covers : p.Covers n)
    (rest : List UInt8) : decodeFrom (some p) (digits (k + 1) n ++ rest) =
      some (Char.ofNat n) :: decodeFrom none rest := by
  induction k generalizing p with
  | zero =>
      have byte := toNat_continuation (n / 64 ^ 0)
      rw [Pending.Covers, later] at covers
      obtain ⟨bits, low, high⟩ := covers
      have number : p.bits * 64 + ((continuation (n / 64 ^ 0)).toNat - 0x80) = n := by
        rw [byte, ← bits, Nat.pow_succ, Nat.pow_zero]
        omega
      rw [digits, digits, List.singleton_append, step_last (by omega) (by omega) later, number]
  | succ k ih =>
      have byte := toNat_continuation (n / 64 ^ (k + 1))
      rw [Pending.Covers, later] at covers
      obtain ⟨bits, low, high⟩ := covers
      have number : p.bits * 64 + ((continuation (n / 64 ^ (k + 1))).toNat - 0x80) =
          n / 64 ^ (k + 1) := by
        rw [byte, ← bits, Nat.pow_succ 64 (k + 1), ← Nat.div_div_eq_div_mul]
        omega
      rw [digits, List.cons_append, step_more (by omega) (by omega) later, number]
      apply ih _ rfl
      refine ⟨rfl, ?_, ?_⟩
      · exact Nat.le_add_right _ _
      · have digit := Nat.mod_lt (n / 64 ^ k) (show 0 < 64 by decide)
        simp only
        omega

theorem decodeFrom_encodeChar (c : Char) (rest : List UInt8) :
    decodeFrom none (encodeChar c ++ rest) = some c :: decodeFrom none rest := by
  have range := lead_range c
  have first := toNat_ofNat (show (lead c.toNat).1 < 256 by omega)
  rw [encode_char_digits, List.cons_append]
  rcases begin_cases (lead c.toNat).1 with ⟨small, begun⟩ | ⟨outside, _⟩ | ⟨p, led, begun⟩
  · have alone : lead c.toNat = (c.toNat, 0) := by
      rcases lead_cases c.toNat with ⟨_, is⟩ | ⟨_, _, is⟩ | ⟨_, _, is⟩ | ⟨_, is⟩
      · exact is
      all_goals
        rw [is] at small
        omega
    rw [alone] at first begun ⊢
    rw [digits, List.nil_append, decodeFrom, step, first, begun, Char.ofNat_toNat,
      List.singleton_append]
  · omega
  · obtain ⟨covered, later⟩ := led_covers _ p led c.toNat
    have covers := covered.mpr ⟨c.valid, rfl⟩
    rw [← first] at begun
    rw [step_begin begun, later covers, decode_digits p c.toNat p.later rfl covers,
      Char.ofNat_toNat]

theorem decode_encode (s : Text) : decode (encode s) = s.map some := by
  unfold decode
  induction s with
  | nil => rfl
  | cons c r ih => simpa [encode, decodeFrom_encodeChar] using ih

theorem decodeLossy_encode (s : Text) : decodeLossy (encode s) = s := by
  rw [decodeLossy, decode_encode, List.map_map]
  exact List.map_id s

theorem low_begin {b : Nat} {p : Pending} (h : (begin b).2 = some p) : 0x80 ≤ p.low := by
  rcases begin_cases b with ⟨_, begun⟩ | ⟨_, begun⟩ | ⟨q, led, begun⟩
  · rw [begun] at h
    cases h
  · rw [begun] at h
    cases h
  · rw [begun] at h
    obtain rfl := Option.some.inj h
    exact (led_bounds b q led).1

theorem low_step {state : State} {b : UInt8} {p : Pending} (h : (step state b).2 = some p) :
    0x80 ≤ p.low := by
  unfold step at h
  cases state with
  | none => exact low_begin h
  | some q =>
    simp only at h
    split at h
    · unfold Pending.next at h
      split at h
      · simp at h
      · simp at h
        subst h
        exact Nat.le_refl _
    · exact low_begin h

/-- No character goes on with a line feed. -/
theorem decodeFrom_lineFeed {state : State} (h : ∀ p, state = some p → 0x80 ≤ p.low)
    (a b : List UInt8) :
    decodeFrom state (a ++ 10 :: b) = decodeFrom state a ++ some '\n' :: decodeFrom none b := by
  induction a generalizing state with
  | nil =>
    cases state with
    | none => simp [decodeFrom, step, begin]
    | some p =>
      have low := h p rfl
      have : ¬ (p.low ≤ 10 ∧ 10 ≤ p.high) := by omega
      simp [decodeFrom, step, begin, this]
  | cons x a ih =>
    simp only [List.cons_append, decodeFrom, List.append_assoc]
    rw [ih fun p hp => low_step hp]

theorem decode_lineFeed (a b : List UInt8) :
    decode (a ++ 10 :: b) = decode a ++ some '\n' :: decode b :=
  decodeFrom_lineFeed (by simp) a b

theorem decodeLossy_lineFeed (a b : List UInt8) :
    decodeLossy (a ++ 10 :: b) = decodeLossy a ++ '\n' :: decodeLossy b := by
  rw [decodeLossy, decode_lineFeed, List.map_append]
  rfl

end Utf8

end ContentFilter
