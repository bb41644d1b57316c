import ContentFilter.Regex.Matcher
import Mathlib.Logic.Function.Iterate
/-!
The search by sets of positions finds what expressions describe. From a set of marked positions
`reach` marks exactly the ends of the stretches that begin there, and so `occursIn` decides whether
some stretch of the text is described.
-/
namespace ContentFilter.Regex

section Steps

variable {R : Nat → Nat → Prop}

theorem steps_add (R : Nat → Nat → Prop) (a b i j : Nat) :
    Steps R (a + b) i j ↔ ∃ k, Steps R a i k ∧ Steps R b k j := by
  induction a generalizing i with
  | zero => simp [Steps]
  | succ a ih =>
      rw [Nat.succ_add]
      simp only [Steps, ih]
      constructor
      · rintro ⟨k, first, l, front, back⟩
        exact ⟨l, ⟨k, first, front⟩, back⟩
      · rintro ⟨l, ⟨k, first, front⟩, back⟩
        exact ⟨k, first, l, front, back⟩

theorem steps_le (forward : ∀ i j, R i j → i ≤ j) (n i j : Nat) (steps : Steps R n i j) :
    i ≤ j := by
  induction n generalizing i with
  | zero => exact Nat.le_of_eq steps
  | succ n ih =>
      obtain ⟨k, first, rest⟩ := steps
      exact Nat.le_trans (forward i k first) (ih k rest)

theorem steps_keep (p : Nat → Prop) (kept : ∀ i j, R i j → p i → p j) (n i j : Nat)
    (steps : Steps R n i j) (start : p i) : p j := by
  induction n generalizing i with
  | zero =>
      obtain rfl := steps
      exact start
  | succ n ih =>
      obtain ⟨k, first, rest⟩ := steps
      exact ih k rest (kept i k first start)

theorem steps_within_distance (forward : ∀ i j, R i j → i ≤ j) (n i j : Nat)
    (steps : Steps R n i j) : ∃ m, m ≤ j - i ∧ Steps R m i j := by
  induction n generalizing i with
  | zero => exact ⟨0, Nat.zero_le _, steps⟩
  | succ n ih =>
      obtain ⟨k, first, rest⟩ := steps
      obtain ⟨m, few, short⟩ := ih k rest
      have near := forward i k first
      have far := steps_le forward m k j short
      by_cases still : i = k
      · exact ⟨m, still ▸ few, still ▸ short⟩
      · exact ⟨m + 1, by omega, k, first, short⟩

/-- Where one step from a position that was seen is seen or new, and the new ones are one step away,
what is within `n` steps of either is within one more of what was seen. -/
theorem steps_onward {seen new : Nat → Prop}
    (onward : ∀ i l, seen i → R i l → seen l ∨ new l) (behind : ∀ i, new i → ∃ h, seen h ∧ R h i)
    (n j : Nat) :
    (∃ i k, (seen i ∨ new i) ∧ k ≤ n ∧ Steps R k i j) ↔
      ∃ i k, seen i ∧ k ≤ n + 1 ∧ Steps R k i j := by
  constructor
  · rintro ⟨i, k, marked | fresh, few, steps⟩
    · exact ⟨i, k, marked, Nat.le_succ_of_le few, steps⟩
    · obtain ⟨h, start, first⟩ := behind i fresh
      exact ⟨h, k + 1, start, Nat.succ_le_succ few, i, first, steps⟩
  · rintro ⟨i, k, marked, few, steps⟩
    cases k with
    | zero => exact ⟨i, 0, Or.inl marked, Nat.zero_le n, steps⟩
    | succ k =>
        obtain ⟨l, first, rest⟩ := steps
        exact ⟨l, k, onward i l marked first, Nat.le_of_succ_le_succ few, rest⟩

end Steps

theorem spans_bounds (t : Text) (r : Regex) (i j : Nat) (spans : Spans t r i j) :
    i ≤ j ∧ (i ≤ t.length → j ≤ t.length) := by
  induction r generalizing i j with
  | empty =>
      obtain rfl := spans
      exact ⟨Nat.le_refl i, id⟩
  | one chars =>
      obtain ⟨rfl, c, present, -⟩ := spans
      have inside := (List.getElem?_eq_some_iff.mp present).1
      exact ⟨Nat.le_succ i, fun _ => inside⟩
  | look assertion =>
      obtain ⟨rfl, -⟩ := spans
      exact ⟨Nat.le_refl i, id⟩
  | seq r s ihr ihs =>
      obtain ⟨k, front, back⟩ := spans
      have first := ihr i k front
      have second := ihs k j back
      exact ⟨Nat.le_trans first.1 second.1, fun inside => second.2 (first.2 inside)⟩
  | alt r s ihr ihs => exact spans.elim (ihr i j) (ihs i j)
  | rep r least extra greedy ih =>
      obtain ⟨n, -, -, steps⟩ := spans
      constructor
      · exact steps_le (fun i j step => (ih i j step).1) n i j steps
      · exact steps_keep (· ≤ t.length) (fun i j step => (ih i j step).2) n i j steps
  | group number r ih => exact ih i j spans

theorem spans_le (t : Text) (r : Regex) (i j : Nat) (spans : Spans t r i j) : i ≤ j :=
  (spans_bounds t r i j spans).1

theorem spans_rep (t : Text) (r : Regex) (least : Nat) (extra : Option Nat) (greedy : Bool)
    (i j : Nat) :
    Spans t (.rep r least extra greedy) i j ↔
      ∃ k n, Steps (Spans t r) least i k ∧ (∀ m, extra = some m → n ≤ m) ∧
        Steps (Spans t r) n k j := by
  constructor
  · rintro ⟨n, enough, few, steps⟩
    obtain ⟨more, rfl⟩ := Nat.exists_eq_add_of_le enough
    obtain ⟨k, front, back⟩ := (steps_add _ least more i j).mp steps
    exact ⟨k, more, front, fun m bound => Nat.le_of_add_le_add_left (few m bound), back⟩
  · rintro ⟨k, n, front, few, back⟩
    exact ⟨least + n, Nat.le_add_right _ _, fun m bound => Nat.add_le_add_left (few m bound) _,
      (steps_add _ least n i j).mpr ⟨k, front, back⟩⟩

namespace Marks

def Has (m : Marks) (i : Nat) : Prop := m[i]? = some true

/-- One mark for each position of `t`. -/
def Fits (t : Text) (m : Marks) : Prop := m.length = t.length + 1

theorem has_lt_length (m : Marks) (i : Nat) (has : m.Has i) : i < m.length :=
  (List.getElem?_eq_some_iff.mp has).1

theorem is_marked_iff (m : Marks) : m.isMarked = true ↔ ∃ i, m.Has i := by
  simp only [isMarked, List.any_eq_true, id_eq, exists_eq_right, Has, List.mem_iff_getElem?]

theorem everywhere_has (t : Text) (i : Nat) : (everywhere t).Has i ↔ i ≤ t.length := by
  rw [Has, everywhere, List.getElem?_replicate]
  simp only [ite_eq_left_iff, reduceCtorEq, imp_false, not_not]
  exact Nat.lt_succ_iff

theorem join_has (m n : Marks) (same : m.length = n.length) (i : Nat) :
    (join m n).Has i ↔ m.Has i ∨ n.Has i := by
  simp only [Has, join, List.getElem?_zipWith]
  by_cases inside : i < m.length
  · simp [List.getElem?_eq_getElem inside, List.getElem?_eq_getElem (same ▸ inside)]
  · have outside := Nat.not_lt.mp inside
    simp [List.getElem?_eq_none outside, List.getElem?_eq_none (same ▸ outside)]

theorem minus_has (m n : Marks) (same : m.length = n.length) (i : Nat) :
    (minus m n).Has i ↔ m.Has i ∧ ¬ n.Has i := by
  simp only [Has, minus, List.getElem?_zipWith]
  by_cases inside : i < m.length
  · simp [List.getElem?_eq_getElem inside, List.getElem?_eq_getElem (same ▸ inside)]
  · simp [List.getElem?_eq_none (Nat.not_lt.mp inside)]

theorem crossed_has (chars : CharSet) (t : Text) (m : Marks) (i : Nat) :
    (crossed chars t m).Has i ↔ m.Has i ∧ ∃ c, t[i]? = some c ∧ chars.has c = true := by
  induction t generalizing m i with
  | nil => simp [crossed, Has]
  | cons c t ih =>
      cases m with
      | nil => simp [crossed, Has]
      | cons a m =>
          cases i with
          | zero => simp [crossed, Has]
          | succ i => exact ih m i

theorem crossed_length (chars : CharSet) (t : Text) (m : Marks) :
    (crossed chars t m).length = min t.length m.length := by
  induction t generalizing m with
  | nil => simp [crossed]
  | cons c t ih => cases m <;> simp [crossed, ih]

theorem advance_has (chars : CharSet) (t : Text) (m : Marks) (j : Nat) :
    (advance chars t m).Has j ↔ ∃ i, m.Has i ∧ Spans t (.one chars) i j := by
  cases j with
  | zero => simp [advance, Has, Spans]
  | succ j =>
      have shifted : (advance chars t m).Has (j + 1) ↔ (crossed chars t m).Has j := by
        simp [advance, Has]
      rw [shifted, crossed_has]
      constructor
      · rintro ⟨marked, present⟩
        exact ⟨j, marked, rfl, present⟩
      · rintro ⟨i, marked, next, present⟩
        obtain rfl := Nat.succ.inj next
        exact ⟨marked, present⟩

def charBefore (first : Option Char) (t : Text) : Nat → Option Char
  | 0 => first
  | i + 1 => t[i]?

theorem keep_has (assertion : Look) (first : Option Char) (t : Text) (m : Marks) (fits : Fits t m)
    (i : Nat) :
    (keep assertion first t m).Has i ↔
      m.Has i ∧ assertion.holds (charBefore first t i) t[i]? = true := by
  induction t generalizing first m i with
  | nil =>
      obtain ⟨a, rfl⟩ := List.length_eq_one_iff.mp fits
      cases i <;> simp [keep, Has, charBefore]
  | cons c t ih =>
      cases m with
      | nil => simp [Fits] at fits
      | cons a m =>
          cases i with
          | zero => simp [keep, Has, charBefore]
          | succ i =>
              have rest := ih (some c) m (Nat.succ.inj fits) i
              cases i with
              | zero => simpa [keep, Has, charBefore] using rest
              | succ i => simpa [keep, Has, charBefore] using rest

theorem keep_length (assertion : Look) (first : Option Char) (t : Text) (m : Marks)
    (fits : Fits t m) : Fits t (keep assertion first t m) := by
  induction t generalizing first m with
  | nil =>
      obtain ⟨a, rfl⟩ := List.length_eq_one_iff.mp fits
      rfl
  | cons c t ih =>
      cases m with
      | nil => simp [Fits] at fits
      | cons a m => exact congrArg Nat.succ (ih (some c) m (Nat.succ.inj fits))

theorem iterate_eq (step : Marks → Marks) (n : Nat) (m : Marks) : iterate step n m = step^[n] m := by
  induction n generalizing m with
  | zero => rfl
  | succ n ih =>
      rw [iterate, Function.iterate_succ_apply]
      split
      · rename_i same
        have fixed : step m = m := beq_iff_eq.mp same
        rw [fixed, Function.iterate_fixed fixed]
      · exact ih (step m)

/-- The step keeps the length of sets and takes each marked position to the positions that are one
step of `R` away. -/
structure Follows (step : Marks → Marks) (size : Nat) (R : Nat → Nat → Prop) : Prop where
  length : ∀ m : Marks, m.length = size → (step m).length = size
  has : ∀ m : Marks, m.length = size → ∀ j, (step m).Has j ↔ ∃ i, m.Has i ∧ R i j

section

variable {step : Marks → Marks} {size : Nat} {R : Nat → Nat → Prop}

theorem iterate_follows (follows : Follows step size R) (n : Nat) :
    Follows (iterate step n) size (Steps R n) := by
  induction n with
  | zero => exact ⟨fun m fits => fits, fun m fits j => by simp [iterate, Steps]⟩
  | succ n ih =>
      have unfolded (m : Marks) : iterate step (n + 1) m = iterate step n (step m) := by
        rw [iterate_eq, iterate_eq, Function.iterate_succ_apply]
      constructor
      · intro m fits
        rw [unfolded]
        exact ih.length _ (follows.length m fits)
      · intro m fits j
        rw [unfolded, ih.has _ (follows.length m fits)]
        simp only [follows.has m fits, Steps]
        constructor
        · rintro ⟨k, ⟨i, marked, first⟩, rest⟩
          exact ⟨i, marked, k, first, rest⟩
        · rintro ⟨i, marked, k, first, rest⟩
          exact ⟨k, ⟨i, marked, first⟩, rest⟩

theorem minus_length (m n : Marks) (same : m.length = n.length) :
    (minus m n).length = n.length := by
  simp [minus, same]

theorem join_length (m n : Marks) (same : m.length = n.length) :
    (join m n).length = m.length := by
  simp [join, same]

theorem spread_length (follows : Follows step size R) (n : Nat) (seen front : Marks)
    (fits : seen.length = size) (edge : front.length = size) :
    (spread step n seen front).length = size := by
  induction n generalizing seen front with
  | zero => exact fits
  | succ n ih =>
      have stepped := follows.length front edge
      have new := (minus_length (step front) seen (stepped.trans fits.symm)).trans fits
      rw [spread]
      split
      · exact ih _ _ ((join_length seen _ (fits.trans new.symm)).trans fits) new
      · exact fits

/-- As long as every step from a position behind the front leads to a position that was seen, the
positions within `n` steps are found from the front alone. -/
theorem spread_has (follows : Follows step size R) (n : Nat) (seen front : Marks)
    (fits : seen.length = size) (edge : front.length = size)
    (among : ∀ i, front.Has i → seen.Has i)
    (closed : ∀ i j, seen.Has i → ¬ front.Has i → R i j → seen.Has j) (j : Nat) :
    (spread step n seen front).Has j ↔ ∃ i k, seen.Has i ∧ k ≤ n ∧ Steps R k i j := by
  induction n generalizing seen front with
  | zero =>
      rw [spread]
      constructor
      · intro marked
        exact ⟨j, 0, marked, Nat.le_refl 0, rfl⟩
      · rintro ⟨i, k, marked, few, steps⟩
        obtain rfl := Nat.le_zero.mp few
        obtain rfl := steps
        exact marked
  | succ n ih =>
      have stepped := follows.length front edge
      have new := (minus_length (step front) seen (stepped.trans fits.symm)).trans fits
      have next (i : Nat) : (minus (step front) seen).Has i ↔
          (∃ h, front.Has h ∧ R h i) ∧ ¬ seen.Has i := by
        rw [minus_has _ _ (stepped.trans fits.symm), follows.has front edge]
      -- whatever was seen, one step from it is seen or new
      have onward (i l : Nat) (marked : seen.Has i) (first : R i l) :
          seen.Has l ∨ (minus (step front) seen).Has l := by
        by_cases known : seen.Has l
        · exact Or.inl known
        · by_cases fresh : front.Has i
          · exact Or.inr ((next l).mpr ⟨⟨i, fresh, first⟩, known⟩)
          · exact absurd (closed i l marked fresh first) known
      rw [spread]
      split
      · have joined (i : Nat) := join_has seen _ (fits.trans new.symm) i
        rw [ih _ _ ((join_length seen _ (fits.trans new.symm)).trans fits) new]
        · simp only [joined]
          apply steps_onward onward
          intro i fresh
          obtain ⟨⟨h, start, first⟩, -⟩ := (next i).mp fresh
          exact ⟨h, among h start, first⟩
        · exact fun i fresh => (joined i).mpr (Or.inr fresh)
        · intro i l marked old first
          have known := ((joined i).mp marked).resolve_right old
          exact (joined l).mpr (onward i l known first)
      · rename_i spent
        have nothing (i : Nat) : ¬ (minus (step front) seen).Has i := by
          intro fresh
          exact spent ((is_marked_iff _).mpr ⟨i, fresh⟩)
        constructor
        · intro marked
          exact ⟨j, 0, marked, Nat.zero_le _, rfl⟩
        · rintro ⟨i, k, marked, -, steps⟩
          refine steps_keep seen.Has ?_ k i j steps marked
          intro i l first known
          exact (onward i l known first).resolve_right (nothing l)

end

end Marks

abbrev Carries (t : Text) (r : Regex) : Prop :=
  Marks.Follows (reach t r) (t.length + 1) (Spans t r)

section Carries

variable (t : Text)

theorem carries_one (chars : CharSet) : Carries t (.one chars) := by
  constructor
  · intro m fits
    simp [reach, Marks.advance, Marks.crossed_length, fits]
  · intro m _ j
    exact Marks.advance_has chars t m j

theorem carries_look (assertion : Look) : Carries t (.look assertion) := by
  constructor
  · intro m fits
    exact Marks.keep_length assertion none t m fits
  · intro m fits j
    have before_eq : Marks.charBefore none t j = before t j := by cases j <;> rfl
    rw [reach, Marks.keep_has assertion none t m fits j, before_eq]
    simp only [Spans]
    constructor
    · rintro ⟨marked, holds⟩
      exact ⟨j, marked, rfl, holds⟩
    · rintro ⟨i, marked, rfl, holds⟩
      exact ⟨marked, holds⟩

variable (r s : Regex) (first : Carries t r)

include first

theorem carries_seq (second : Carries t s) : Carries t (.seq r s) := by
  constructor
  · intro m fits
    exact second.length _ (first.length m fits)
  · intro m fits j
    rw [reach, second.has _ (first.length m fits)]
    simp only [first.has m fits, Spans]
    constructor
    · rintro ⟨k, ⟨i, marked, front⟩, back⟩
      exact ⟨i, marked, k, front, back⟩
    · rintro ⟨i, marked, k, front, back⟩
      exact ⟨k, ⟨i, marked, front⟩, back⟩

theorem carries_alt (second : Carries t s) : Carries t (.alt r s) := by
  have same (m : Marks) (fits : m.length = t.length + 1) :
      (reach t r m).length = (reach t s m).length :=
    (first.length m fits).trans (second.length m fits).symm
  constructor
  · intro m fits
    rw [reach, Marks.join_length _ _ (same m fits), first.length m fits]
  · intro m fits j
    rw [reach, Marks.join_has _ _ (same m fits), first.has m fits, second.has m fits, ← exists_or]
    simp only [← and_or_left, Spans]

theorem carries_rep (least : Nat) (extra : Option Nat) (greedy : Bool) :
    Carries t (.rep r least extra greedy) := by
  have start := Marks.iterate_follows first least
  constructor
  · intro m fits
    have begun := start.length m fits
    exact Marks.spread_length first _ _ _ begun begun
  · intro m fits j
    have begun := start.length m fits
    rw [reach, Marks.spread_has first _ _ _ begun begun (fun i marked => marked)
      (fun i k marked unmarked => absurd marked unmarked)]
    simp only [start.has m fits, spans_rep]
    constructor
    · rintro ⟨k, n, ⟨i, marked, front⟩, few, back⟩
      refine ⟨i, marked, k, n, front, ?_, back⟩
      rintro most rfl
      exact few
    · rintro ⟨i, marked, k, n, front, few, back⟩
      cases extra with
      | some most => exact ⟨k, n, ⟨i, marked, front⟩, few most rfl, back⟩
      | none =>
          -- more steps than the text is long come back to where fewer of them led
          have inside : i ≤ t.length := by
            have bound := Marks.has_lt_length m i marked
            omega
          have bounded := steps_keep (· ≤ t.length)
            (fun i j step => (spans_bounds t r i j step).2)
          have ended := bounded n k j back (bounded least i k front inside)
          obtain ⟨n', short, again⟩ := steps_within_distance (spans_le t r) n k j back
          refine ⟨k, n', ⟨i, marked, front⟩, ?_, again⟩
          change n' ≤ t.length
          omega

end Carries

/-- Marks are carried to just the ends of the stretches that begin at them. -/
theorem reach_follows (t : Text) (r : Regex) : Carries t r := by
  induction r with
  | empty => exact ⟨fun m fits => fits, fun m fits j => by simp [reach, Spans]⟩
  | one chars => exact carries_one t chars
  | look assertion => exact carries_look t assertion
  | seq r s ihr ihs => exact carries_seq t r s ihr ihs
  | alt r s ihr ihs => exact carries_alt t r s ihr ihs
  | rep r least extra greedy ih => exact carries_rep t r ih least extra greedy
  | group number r ih => exact ih

theorem occurs_in_iff (r : Regex) (t : Text) : r.occursIn t = true ↔ OccursIn r t := by
  have everywhere : (Marks.everywhere t).length = t.length + 1 := List.length_replicate
  rw [occursIn, Marks.is_marked_iff]
  simp only [(reach_follows t r).has _ everywhere, Marks.everywhere_has, OccursIn]
  exact exists_comm

end ContentFilter.Regex
