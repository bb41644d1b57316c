import ContentFilter.Proofs.Unicode.CaseClasses
import ContentFilter.Regex.Room
import Mathlib.Algebra.Order.BigOperators.Group.List
import Mathlib.Algebra.Order.Ring.Nat

namespace ContentFilter

namespace Unicode

namespace Ranges

section Ascending

variable {α : Type} (code : α → Nat)

theorem merged_perm (first second : List α) :
    (merged code first second).Perm (first ++ second) := by
  induction first generalizing second with
  | nil => exact List.Perm.refl second
  | cons a rest ih =>
      have parts := List.takeWhile_append_dropWhile (p := (code · < code a)) (l := second)
      have kept := ((ih (second.dropWhile (code · < code a))).cons a).append_left
        (second.takeWhile (code · < code a))
      have moved := List.perm_append_comm_assoc (second.takeWhile (code · < code a)) (a :: rest)
        (second.dropWhile (code · < code a))
      rw [parts] at moved
      exact kept.trans moved

theorem merged_pairs_perm (lists : List (List α)) :
    (mergedPairs code lists).flatten.Perm lists.flatten := by
  fun_induction mergedPairs code lists with
  | case1 first second rest ih =>
      have both := (merged_perm code first second).append ih
      rwa [List.append_assoc] at both
  | case2 => exact List.Perm.refl _

theorem ascending_perm (elements : List α) : (ascending code elements).Perm elements := by
  have rounds (n : Nat) (lists : List (List α)) :
      (Nat.repeat (mergedPairs code) n lists).flatten.Perm lists.flatten := by
    induction n with
    | zero => exact List.Perm.refl _
    | succ n ih => exact (merged_pairs_perm code _).trans ih
  have single : (elements.map ([·])).flatten = elements := by
    induction elements with
    | nil => rfl
    | cons a rest ih => rw [List.map_cons, List.flatten_cons, ih, List.singleton_append]
  have all := rounds (elements.length.log2 + 1) (elements.map ([·]))
  rwa [single] at all

theorem mem_of_select (elements : List α) (ranges : Ranges) (a : α)
    (member : a ∈ select code elements ranges) : a ∈ elements := by
  induction elements generalizing ranges with
  | nil => cases member
  | cons b rest ih =>
      rw [select] at member
      split at member
      · cases member
      · split at member
        · exact List.mem_cons_of_mem b (ih _ member)
        · rcases List.mem_cons.mp member with rfl | later
          · exact List.mem_cons_self
          · exact List.mem_cons_of_mem b (ih _ later)

end Ascending

theorem join_from_length (first last : Nat) (ranges : Ranges) :
    (joinFrom first last ranges).length ≤ ranges.length + 1 := by
  induction ranges generalizing first last with
  | nil => exact Nat.le_refl 1
  | cons range rest ih =>
      rw [joinFrom, List.length_cons]
      split
      · exact Nat.le_succ_of_le (ih first _)
      · exact Nat.succ_le_succ (ih _ _)

theorem of_codes_length (codes : List Nat) : (ofCodes codes).length ≤ codes.length := by
  have same := (ascending_perm Prod.fst (codes.map fun n => (n, n))).length_eq
  rw [List.length_map] at same
  rw [← same, ofCodes]
  generalize ascending Prod.fst (codes.map fun n => (n, n)) = ranges
  cases ranges with
  | nil => exact Nat.le_refl 0
  | cons range rest => exact join_from_length _ _ rest

end Ranges

theorem CasePairs.closure_of_all (pairs : CasePairs) (ranges : Ranges)
    (all : ∀ p ∈ pairs.byImage, ranges.hasCode p.1 = true ∧ ranges.hasCode p.2 = true) :
    pairs.closure ranges = ranges.union [] := by
  unfold closure
  dsimp only
  rw [List.filter_eq_nil_iff.mpr]
  · rfl
  · intro n member
    obtain ⟨p, selected, side⟩ := List.mem_flatMap.mp member
    obtain ⟨source, image⟩ := all p (Ranges.mem_of_select _ _ _ p selected)
    rcases List.mem_cons.mp side with rfl | other
    · simp [source]
    · rw [List.mem_singleton] at other
      simp [other, image]

theorem CasePairs.mem_of_runs (runs : List CaseRun) (p : Nat × Nat) :
    p ∈ (ofRuns runs).byImage ↔ p ∈ runs.flatMap (·.pairs) :=
  (Ranges.ascending_perm Prod.snd (runs.flatMap (·.pairs))).mem_iff

theorem folding_pair_test (p : Nat × Nat) (member : p ∈ foldingPairs.byImage) :
    (foldingSources ||| foldingImages).testBit p.1 = true ∧
      (foldingSources ||| foldingImages).testBit p.2 = true := by
  have among : p ∈ foldingRuns.flatMap (·.pairs) :=
    (CasePairs.mem_of_runs foldingRuns p).mp member
  obtain ⟨run, known, paired⟩ := List.mem_flatMap.mp among
  have side (f : Nat × Nat → Nat) : (CaseRun.bits f foldingRuns).testBit (f p) = true :=
    (bits_of_test _ _).mpr (List.mem_flatMap.mpr ⟨run, known, List.mem_map_of_mem paired⟩)
  rw [Nat.testBit_or, Nat.testBit_or, Bool.or_eq_true, Bool.or_eq_true]
  exact ⟨Or.inl (side Prod.fst), Or.inr (side Prod.snd)⟩

theorem same_case_length (c : Char) : (sameCase c).length ≤ 256 := by
  have runs : foldingRuns.length ≤ 254 := by decide +kernel
  unfold sameCase
  split
  · unfold asciiSameCase
    split
    · simp
    · split <;> simp
  · rw [List.length_map, List.length_cons]
    have found := List.length_filterMap_le (·.source? (fold c).toNat) foldingRuns
    omega

namespace ByteRange

theorem cuts_length (cut : Nat → Nat × Nat → Ranges) (most : Nat)
    (each : ∀ limit range, (cut limit range).length ≤ most) (limits : List Nat) (ranges : Ranges) :
    (limits.foldl (fun rs limit => rs.flatMap (cut limit)) ranges).length ≤
      most ^ limits.length * ranges.length := by
  induction limits generalizing ranges with
  | nil => simp
  | cons limit limits ih =>
      have once : (ranges.flatMap (cut limit)).length ≤ most * ranges.length := by
        induction ranges with
        | nil => exact Nat.zero_le _
        | cons range ranges ih =>
            have here := each limit range
            rw [List.flatMap_cons, List.length_append, List.length_cons, Nat.mul_succ]
            omega
      rw [List.foldl_cons, List.length_cons, Nat.pow_succ, Nat.mul_assoc]
      exact (ih _).trans (Nat.mul_le_mul_left _ once)

theorem cut_after_length (limit : Nat) (range : Nat × Nat) : (cutAfter limit range).length ≤ 2 := by
  unfold cutAfter
  split <;> simp

theorem cut_blocks_length (block : Nat) (range : Nat × Nat) :
    (cutBlocks block range).length ≤ 3 := by
  unfold cutBlocks
  dsimp only
  repeat' split
  all_goals simp

theorem regular_length (range : Nat × Nat) : (regular range).length ≤ 216 := by
  have even := cuts_length cutAfter 2 cut_after_length [0x7F, 0x7FF, 0xFFFF] [range]
  exact (cuts_length cutBlocks 3 cut_blocks_length [0x40, 0x1000, 0x40000] _).trans
    (Nat.mul_le_mul_left 27 even)

theorem bytes_length (n : Nat) : (bytes n).length ≤ 4 := by
  unfold bytes
  repeat' split
  all_goals simp

theorem sequence_length (ranges : Ranges) (sequence : ByteSequence)
    (member : sequence ∈ sequences ranges) : sequence.length ≤ 4 := by
  obtain ⟨piece, -, rfl⟩ := List.mem_map.mp member
  rw [List.length_zip]
  exact (Nat.min_le_left _ _).trans (bytes_length piece.1)

theorem sequences_length (ranges : Ranges) :
    (sequences ranges).length ≤ 216 * ranges.length ∧
      ((sequences ranges).map List.length).sum ≤ 864 * ranges.length := by
  have count : (sequences ranges).length ≤ 216 * ranges.length := by
    have each := List.sum_le_card_nsmul (ranges.map fun range => (regular range).length) 216
      (List.forall_mem_map.mpr fun range _ => regular_length range)
    rw [List.length_map, Nat.nsmul_eq_mul] at each
    rw [sequences, List.length_map, List.length_flatMap]
    omega
  have total := List.sum_le_card_nsmul ((sequences ranges).map List.length) 4
    (List.forall_mem_map.mpr (sequence_length ranges))
  rw [List.length_map, Nat.nsmul_eq_mul] at total
  omega

end ByteRange

end Unicode

namespace Regex.Room

open Unicode

theorem at_most_of_ranges (ranges : Ranges) :
    atMost (Layout.ofRanges ranges) ≤ setAtMost ranges (ByteRange.sequences ranges) + 304 := by
  unfold Layout.ofRanges
  split
  · split
    · rename_i first _ _
      have bytes := ByteRange.bytes_length (Char.ofNat first).toNat
      rw [atMost, utf8, List.flatMap_singleton]
      omega
    · exact Nat.le_add_right _ _
  · exact Nat.le_add_right _ _

theorem set_at_most_le (ranges : Ranges) :
    setAtMost ranges (ByteRange.sequences ranges) ≤ 64 + 35432 * ranges.length := by
  obtain ⟨count, total⟩ := ByteRange.sequences_length ranges
  rw [setAtMost, List.length_flatten]
  omega

theorem at_most_letter (c : Char) :
    atMost (Layout.ofSet (.folded .simple (.single c))) ≤ 64 + 35432 * 256 + 304 := by
  have codes := Ranges.of_codes_length ((sameCase c).map (·.toNat))
  have letters := same_case_length c
  rw [List.length_map] at codes
  have written : Layout.ofSet (.folded .simple (.single c)) =
      Layout.ofRanges (.ofCodes ((sameCase c).map (·.toNat))) := if_pos (beq_self_eq_true c)
  have set := at_most_of_ranges (.ofCodes ((sameCase c).map (·.toNat)))
  have bound := set_at_most_le (.ofCodes ((sameCase c).map (·.toNat)))
  rw [written]
  omega

end Regex.Room

end ContentFilter
