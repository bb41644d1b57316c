import ContentFilter.Proofs.Regex.Growth
import Mathlib.Algebra.GroupWithZero.Nat
/-!
Expressions that keep within the room for automata and expressions that do not. The parts of a
sequence add up, so that a sequence of few parts fits. Characters that follow one another are laid
out as one string with a state for each byte, so that a string that alone passes the limit leaves
no automaton for any expression that it is a part of.
-/
namespace ContentFilter.Regex

theorem seq_all_cons (r : Regex) (rest : List Regex) (more : rest ≠ []) :
    seqAll (r :: rest) = seq r (seqAll rest) := by
  cases rest with
  | nil => exact absurd rfl more
  | cons s rest => rfl

namespace Layout

def HasString (length : Nat) : Layout → Prop
  | literal text => length ≤ text.length
  | seq r s => HasString length r ∨ HasString length s
  | _ => False

def leading : Layout → Nat
  | literal text => text.length
  | seq (literal text) _ => text.length
  | _ => 0

theorem has_of_leading (n : Nat) (r : Layout) (some_length : 0 < n) (long : n ≤ r.leading) :
    r.HasString n := by
  unfold leading at long
  split at long
  · exact long
  · exact Or.inl long
  · omega

theorem leading_prepend (text : Text) (r : Layout) :
    (prepend (literal text) r).leading = text.length + r.leading := by
  cases r with
  | seq first second => cases first <;> simp [prepend, leading]
  | _ => simp [prepend, leading]

theorem prepend_has (n : Nat) (r s : Layout) (has : s.HasString n) :
    (prepend r s).HasString n := by
  unfold prepend
  split
  · rename_i t u
    exact Nat.le_trans has (by simp)
  · rename_i t u rest
    refine has.imp_left fun long => ?_
    exact Nat.le_trans long (by simp)
  · exact absurd has id
  · exact Or.inr has

theorem append_has (n : Nat) (r s : Layout) (has : s.HasString n) :
    (append r s).HasString n := by
  induction r with
  | empty => exact has
  | seq first second _ ih => exact prepend_has n first _ ih
  | _ => exact prepend_has n _ s has

end Layout

theorem layout_seq (r s : Regex) : (seq r s).layout = r.layout.append s.layout := rfl

theorem layout_has (n : Nat) (front rest : List Regex) (more : rest ≠ [])
    (has : (seqAll rest).layout.HasString n) : (seqAll (front ++ rest)).layout.HasString n := by
  induction front with
  | nil => exact has
  | cons r front ih =>
      rw [List.cons_append, seq_all_cons r _ (by simp [more]), layout_seq]
      exact Layout.append_has n _ _ ih

theorem layout_replicate (r : Regex) (c : Char) (written : r.layout = .literal [c]) (n : Nat)
    (rest : List Regex) (more : rest ≠ []) :
    n ≤ (seqAll (List.replicate n r ++ rest)).layout.leading := by
  induction n with
  | zero => exact Nat.zero_le _
  | succ n ih =>
      rw [List.replicate_succ, List.cons_append, seq_all_cons r _ (by simp [more]), layout_seq,
        written]
      change n + 1 ≤ (Layout.prepend (.literal [c]) _).leading
      rw [Layout.leading_prepend, List.length_singleton]
      omega

namespace Room

/-- The bound spares the work of building the automata, and decides nothing. -/
theorem fits_iff (r : Regex) :
    fits r = true ↔ isStrings r.layout = true ∨
      ∀ d, ((automaton d r.layout).run {}).isSome = true := by
  rw [fits, Bool.or_eq_true, Bool.or_eq_true, decide_eq_true_eq, List.all_eq_true]
  constructor
  · rintro ((small | strings) | built)
    · exact Or.inr fun d => automaton_of_at_most d r.layout small
    · exact Or.inl strings
    · exact Or.inr fun d => built d (by cases d <;> simp)
  · rintro (strings | built)
    · exact Or.inl (Or.inr strings)
    · exact Or.inr fun d _ => built d

theorem fits_of_at_most (r : Regex) (small : atMost r.layout + surrounds ≤ limit) :
    fits r = true :=
  (fits_iff r).mpr (Or.inr fun d => automaton_of_at_most d r.layout small)

theorem at_most_prepend (r s : Layout) :
    atMost (Layout.prepend r s) ≤ atMost r + atMost s + 4 := by
  unfold Layout.prepend
  split
  · simp only [atMost, utf8, List.flatMap_append, List.length_append]
    omega
  · simp only [atMost, utf8, List.flatMap_append, List.length_append]
    omega
  · omega
  · exact Nat.le_refl _

theorem at_most_append (r s : Layout) : atMost (Layout.append r s) ≤ atMost r + atMost s + 4 := by
  induction r with
  | empty =>
      rw [Layout.append]
      omega
  | seq first second _ ih =>
      have whole := at_most_prepend first (Layout.append second s)
      rw [Layout.append, atMost]
      omega
  | _ => exact at_most_prepend _ s

/-- No less than an expression takes as a part of a sequence. -/
def partAtMost (r : Regex) : Nat := atMost r.layout + 4

theorem at_most_seq_all (rs : List Regex) :
    atMost (seqAll rs).layout ≤ (rs.map partAtMost).sum + 32 := by
  induction rs with
  | nil => exact Nat.le_refl 32
  | cons r rest ih =>
      cases rest with
      | nil =>
          simp only [seqAll, List.map_cons, List.map_nil, List.sum_cons, List.sum_nil, partAtMost]
          omega
      | cons s rest =>
          have parts := at_most_append r.layout (seqAll (s :: rest)).layout
          rw [seq_all_cons r _ (List.cons_ne_nil s rest), layout_seq, List.map_cons, List.sum_cons,
            partAtMost]
          omega

theorem look_first (assertion : Look) (rest : List Regex) :
    isStrings (seqAll (.look assertion :: rest)).layout = false := by
  have unplain (r : Layout) : isPlain (Layout.prepend (.look assertion) r) = false := by
    cases r <;> rfl
  have whole : isPlain (seqAll (.look assertion :: rest)).layout = false := by
    cases rest with
    | nil => rfl
    | cons s rest => exact unplain _
  rw [isStrings, whole, Bool.false_and]

section Fails

variable {α β : Type}

def Fails (g : Growth α) : Prop := ∀ e, g e = none

theorem fails_bind (g : Growth α) (next : α → Growth β) (fails : Fails g) :
    Fails (g >>= next) := by
  intro e
  change (g e).bind _ = none
  rw [fails e]
  rfl

theorem fails_after (g : Growth α) (next : α → Growth β) (fails : ∀ a, Fails (next a)) :
    Fails (g >>= next) := by
  intro e
  change (g e).bind _ = none
  rw [Option.bind_eq_none_iff]
  intro built _
  exact fails built.1 built.2

end Fails

theorem length_le_utf8 (text : Text) : text.length ≤ (utf8 text).length := by
  induction text with
  | nil => exact Nat.le_refl 0
  | cons c text ih =>
      have one : 1 ≤ (Unicode.ByteRange.bytes c.toNat).length := by
        unfold Unicode.ByteRange.bytes
        repeat' split
        all_goals simp
      rw [utf8, List.flatMap_cons, List.length_append, List.length_cons]
      rw [utf8] at ih
      omega

theorem fails_new_states (count : Nat) (large : limit < stateBytes * count) :
    Fails (newStates count) := by
  intro e
  have passed : ¬ Extent.room { states := e.states + count, lists := e.lists + 0 } ≤ limit := by
    rw [Extent.room, Nat.mul_add]
    omega
  exact if_neg passed

theorem part_fails (n : Nat) (large : limit < stateBytes * n) (d : Direction) (r : Layout)
    (has : r.HasString n) (rank : Rank) : Fails (part d r rank) := by
  induction r generalizing rank with
  | literal text =>
      rw [part]
      apply fails_bind
      apply fails_new_states
      have long : n ≤ (utf8 text).length := Nat.le_trans has (length_le_utf8 text)
      exact Nat.lt_of_lt_of_le large (Nat.mul_le_mul_left _ long)
  | seq first second before after =>
      -- it does not matter which of the two is built first
      have either (one other : Part) (fails : Fails one ∨ Fails other) :
          Fails (one.andThen other) := by
        rcases fails with here | later
        · exact fails_bind one _ here
        · exact fails_after one _ fun _ => fails_bind other _ later
      have parts : Fails (part d first .first) ∨ Fails (part d second .first) :=
        has.imp (fun inside => before inside .first) (fun inside => after inside .first)
      rw [part.eq_def]
      cases d with
      | forward => exact fails_bind _ _ (either _ _ parts)
      | backward => exact fails_bind _ _ (either _ _ parts.symm)
  | _ => exact absurd has id

theorem forward_fails (r : Layout) (fails : Fails (part .forward r .first)) :
    Fails (automaton .forward r) := by
  have whole : Fails (part.bracketed (part .forward r .first)) :=
    fails_after _ _ fun _ => fails_bind _ _ fails
  rw [automaton.eq_def]
  dsimp only
  split
  · exact fails_after _ _ fun _ => fails_bind _ _ whole
  · exact fails_after _ _ fun _ => fails_after _ _ fun _ => fails_bind _ _ whole

/-- Where a string alone passes the limit the expression does not fit, unless strings are searched
for in place of it. -/
theorem not_fits (n : Nat) (large : limit < stateBytes * n) (r : Regex)
    (searched : isStrings r.layout = false) (has : r.layout.HasString n) : fits r = false := by
  have none_built : (automaton .forward r.layout).run {} = none :=
    forward_fails r.layout (part_fails n large .forward r.layout has .first) {}
  rw [Bool.eq_false_iff, Ne, fits_iff, searched]
  rintro (strings | built)
  · cases strings
  · have forward := built .forward
    rw [none_built] at forward
    cases forward

end Room

end ContentFilter.Regex
