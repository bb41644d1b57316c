import ContentFilter.Proofs.Unicode.CodeBits
import ContentFilter.Text.Utf8.Lemmas
import ContentFilter.Unicode.Casing
import ContentFilter.Unicode.Category
import ContentFilter.Unicode.Property
import ContentFilter.Unicode.Word

namespace ContentFilter.Unicode

namespace CaseRun

def areChars (first last : Nat) : Bool :=
  last < 0xD800 || (0xDFFF < first && last < 0x110000)

def isPlaced (run : CaseRun) : Bool :=
  0 ≤ Int.ofNat run.first + run.shift &&
    areChars run.first run.last && areChars (run.apply run.first) (run.apply run.last) &&
    (0x80 ≤ run.first || (0x41 ≤ run.first && run.last ≤ 0x5A)) &&
    (0x80 ≤ run.apply run.first || (0x61 ≤ run.apply run.first && run.apply run.last ≤ 0x7A))

theorem folding_runs_placed : foldingRuns.all isPlaced = true := by decide +kernel

theorem covers_iff (run : CaseRun) (n : Nat) :
    run.covers n = true ↔ run.first ≤ n ∧ n ≤ run.last ∧ (n - run.first) % run.step = 0 := by
  simp [covers, and_assoc]

theorem mem_pairs (run : CaseRun) (n : Nat) (covered : run.covers n = true) :
    (n, run.apply n) ∈ run.pairs := by
  obtain ⟨low, high, whole⟩ := (covers_iff run n).mp covered
  have stepped : run.first + (n - run.first) / run.step * run.step = n := by
    have parts := Nat.div_add_mod (n - run.first) run.step
    rw [Nat.mul_comm] at parts
    omega
  refine List.mem_map.mpr ⟨(n - run.first) / run.step, ?_, by rw [stepped]⟩
  exact List.mem_range.mpr (Nat.lt_succ_of_le (Nat.div_le_div_right (by omega)))

theorem source_eq_some (run : CaseRun) (n m : Nat) (found : run.source? n = some m) :
    run.covers m = true ∧ run.apply m = n := by
  unfold source? at found
  dsimp only at found
  split at found
  · rename_i both
    obtain rfl := Option.some.inj found
    simpa using both
  · cases found

theorem source_apply (run : CaseRun) (placed : run.isPlaced = true) (n : Nat)
    (covered : run.covers n = true) : run.source? (run.apply n) = some n := by
  obtain ⟨low, -, -⟩ := (covers_iff run n).mp covered
  simp only [isPlaced, Bool.and_eq_true, decide_eq_true_eq] at placed
  have back : (Int.ofNat (run.apply n) - run.shift).toNat = n := by
    simp only [apply, Int.ofNat_eq_natCast] at placed ⊢
    omega
  rw [source?, back]
  simp [covered]

theorem image_cases (runs : List CaseRun) (n : Nat) :
    image runs n = n ∨
      ∃ run ∈ runs, run.covers n = true ∧ image runs n = run.apply n := by
  rw [image]
  cases found : runs.find? (·.covers n) with
  | none => exact Or.inl rfl
  | some run =>
      have covered : run.covers n = true := by simpa using List.find?_some found
      exact Or.inr ⟨run, List.mem_of_find?_eq_some found, covered, rfl⟩

theorem apply_le_apply (run : CaseRun) (m n : Nat) (le : m ≤ n) : run.apply m ≤ run.apply n := by
  simp only [apply, Int.ofNat_eq_natCast]
  omega

theorem is_valid_of_are_chars (first last n : Nat) (chars : areChars first last = true)
    (low : first ≤ n) (high : n ≤ last) : n.isValidChar := by
  simp only [areChars, Bool.or_eq_true, Bool.and_eq_true, decide_eq_true_eq] at chars
  rcases chars with below | above
  · exact Or.inl (by omega)
  · exact Or.inr ⟨by omega, by omega⟩

theorem placed_bounds (run : CaseRun) (placed : run.isPlaced = true) (n : Nat)
    (covered : run.covers n = true) :
    (n.isValidChar ∧ (n < 0x80 → 0x41 ≤ n ∧ n ≤ 0x5A)) ∧
      (run.apply n).isValidChar ∧ (run.apply n < 0x80 → 0x61 ≤ run.apply n ∧ run.apply n ≤ 0x7A) := by
  obtain ⟨low, high, -⟩ := (covers_iff run n).mp covered
  simp only [isPlaced, Bool.and_eq_true, Bool.or_eq_true, decide_eq_true_eq] at placed
  obtain ⟨⟨⟨⟨shifted, sources⟩, images⟩, capital⟩, small⟩ := placed
  have least := apply_le_apply run _ _ low
  have most := apply_le_apply run _ _ high
  refine ⟨⟨is_valid_of_are_chars _ _ n sources low high, ?_⟩,
    is_valid_of_are_chars _ _ _ images least most, ?_⟩
  · omega
  · omega

def bits (side : Nat × Nat → Nat) (runs : List CaseRun) : Nat :=
  bitsOf (runs.flatMap fun run => run.pairs.map side)

theorem bits_test (side : Nat × Nat → Nat) (runs : List CaseRun) (run : CaseRun)
    (member : run ∈ runs) (n : Nat) (covered : run.covers n = true) :
    (bits side runs).testBit (side (n, run.apply n)) = true :=
  (bits_of_test _ _).mpr
    (List.mem_flatMap.mpr ⟨run, member, List.mem_map_of_mem (mem_pairs run n covered)⟩)

end CaseRun

def folds (n : Nat) : Bool :=
  foldingRuns.any fun run => run.covers n || (run.source? n).isSome

theorem run_placed (run : CaseRun) (member : run ∈ foldingRuns) : run.isPlaced = true :=
  List.all_eq_true.mp CaseRun.folding_runs_placed run member

theorem folds_iff (n : Nat) :
    folds n = true ↔ ∃ run ∈ foldingRuns, ∃ m, run.covers m = true ∧ (n = m ∨ n = run.apply m) := by
  rw [folds, List.any_eq_true]
  constructor
  · rintro ⟨run, member, mapped⟩
    rcases Bool.or_eq_true_iff.mp mapped with covered | image
    · exact ⟨run, member, n, covered, Or.inl rfl⟩
    · obtain ⟨m, found⟩ := Option.isSome_iff_exists.mp image
      obtain ⟨covered, same⟩ := CaseRun.source_eq_some run n m found
      exact ⟨run, member, m, covered, Or.inr same.symm⟩
  · rintro ⟨run, member, m, covered, rfl | rfl⟩
    · exact ⟨run, member, by simp [covered]⟩
    · have found := CaseRun.source_apply run (run_placed run member) m covered
      exact ⟨run, member, by simp [found]⟩

theorem folds_bounds (n : Nat) (moved : folds n = true) :
    n.isValidChar ∧ (n < 0x80 → 0x41 ≤ n ∧ n ≤ 0x5A ∨ 0x61 ≤ n ∧ n ≤ 0x7A) := by
  obtain ⟨run, member, m, covered, same⟩ := (folds_iff n).mp moved
  obtain ⟨source, image⟩ := CaseRun.placed_bounds run (run_placed run member) m covered
  rcases same with rfl | rfl
  · exact ⟨source.1, fun ascii => Or.inl (source.2 ascii)⟩
  · exact ⟨image.1, fun ascii => Or.inr (image.2 ascii)⟩

def foldingSources : Nat := CaseRun.bits (·.1) foldingRuns

def foldingImages : Nat := CaseRun.bits (·.2) foldingRuns

/-- Capitals whose small letter is not of their class. Those from version 17 have no class. -/
def unfoldedCapitals : Ranges :=
  [(0x130, 0x130), (0xA7CE, 0xA7CE), (0xA7D2, 0xA7D2), (0xA7D4, 0xA7D4), (0x16EA0, 0x16EB8)]

/-- How the table of folding stands to itself and to others: nothing that it maps to is mapped
further, and what it maps or maps to are word characters, and no digits, spaces or capitals that it
does not know. -/
theorem folding_tables :
    areApart foldingSources foldingImages = true ∧
      areWithin (foldingSources ||| foldingImages) wordRanges.bits = true ∧
      areApart (foldingSources ||| foldingImages) Category.decimalNumber.bits = true ∧
      areApart (foldingSources ||| foldingImages) Property.whiteSpace.bits = true ∧
      areApart (foldingSources ||| foldingImages) unfoldedCapitals.bits = true := by
  decide +kernel

theorem folding_test (n : Nat) (moved : folds n = true) :
    (foldingSources ||| foldingImages).testBit n = true := by
  obtain ⟨run, member, m, covered, same⟩ := (folds_iff n).mp moved
  rw [Nat.testBit_or, Bool.or_eq_true]
  rcases same with rfl | rfl
  · exact Or.inl (CaseRun.bits_test (·.1) _ run member n covered)
  · exact Or.inr (CaseRun.bits_test (·.2) _ run member m covered)

theorem folds_in_words (n : Nat) (moved : folds n = true) : wordRanges.hasCode n = true := by
  rw [← Ranges.bits_test]
  exact test_of_within _ _ folding_tables.2.1 n (folding_test n moved)

theorem folds_outside (ranges : Ranges)
    (apart : areApart (foldingSources ||| foldingImages) ranges.bits = true) (n : Nat)
    (moved : folds n = true) : ranges.hasCode n = false := by
  rw [← Ranges.bits_test]
  exact test_of_apart _ _ apart n (folding_test n moved)

theorem folds_no_digit (n : Nat) (moved : folds n = true) :
    Ranges.hasCode Category.decimalNumber n = false :=
  folds_outside _ folding_tables.2.2.1 n moved

theorem folds_no_space (n : Nat) (moved : folds n = true) :
    Ranges.hasCode Property.whiteSpace n = false :=
  folds_outside _ folding_tables.2.2.2.1 n moved

theorem folds_no_unfolded (n : Nat) (moved : folds n = true) :
    unfoldedCapitals.hasCode n = false :=
  folds_outside _ folding_tables.2.2.2.2 n moved

theorem mem_same_case_beyond (c l : Char) (beyond : ¬ c.toNat < 128) :
    l ∈ sameCase c ↔
      ∃ n, l = Char.ofNat n ∧
        (n = (fold c).toNat ∨ ∃ run ∈ foldingRuns, run.source? (fold c).toNat = some n) := by
  rw [sameCase, if_neg beyond]
  simp only [List.mem_map, List.mem_cons, List.mem_filterMap]
  constructor
  · rintro ⟨n, found, rfl⟩
    exact ⟨n, rfl, found⟩
  · rintro ⟨n, rfl, found⟩
    exact ⟨n, found, rfl⟩

theorem fold_cases (c : Char) :
    (fold c).toNat = c.toNat ∨
      ∃ run ∈ foldingRuns, run.covers c.toNat = true ∧ (fold c).toNat = run.apply c.toNat := by
  rw [fold]
  rcases CaseRun.image_cases foldingRuns c.toNat with still | ⟨run, member, covered, image⟩
  · rw [still, Char.ofNat_toNat]
    exact Or.inl rfl
  · have valid := (CaseRun.placed_bounds run (run_placed run member) _ covered).2.1
    rw [image]
    exact Or.inr ⟨run, member, covered, to_nat_of_valid _ valid⟩

theorem ascii_same_case : ∀ n < 128, (asciiSameCase (Char.ofNat n)).all (fun l =>
    l == Char.ofNat n || (folds l.toNat && folds n)) = true := by decide +kernel

theorem ascii_self_mem :
    ∀ n < 128, (asciiSameCase (Char.ofNat n)).contains (Char.ofNat n) = true := by
  decide +kernel

theorem same_case_folds (c l : Char) (same : l ∈ sameCase c) :
    l = c ∨ folds l.toNat = true ∧ folds c.toNat = true := by
  by_cases ascii : c.toNat < 128
  · rw [sameCase, if_pos ascii] at same
    have checked := ascii_same_case c.toNat ascii
    rw [Char.ofNat_toNat] at checked
    simpa using List.all_eq_true.mp checked l same
  · obtain ⟨n, rfl, found⟩ := (mem_same_case_beyond c l ascii).mp same
    have moved (m : Nat) (run : CaseRun) (member : run ∈ foldingRuns)
        (source : run.source? m = some n) : folds n = true ∧ folds m = true := by
      obtain ⟨covered, image⟩ := CaseRun.source_eq_some run m n source
      exact ⟨(folds_iff n).mpr ⟨run, member, n, covered, Or.inl rfl⟩,
        (folds_iff m).mpr ⟨run, member, n, covered, Or.inr image.symm⟩⟩
    rcases fold_cases c with still | ⟨run, member, covered, image⟩
    · rw [still] at found
      rcases found with rfl | ⟨run, member, source⟩
      · exact Or.inl (Char.ofNat_toNat c)
      · have both := moved _ run member source
        rw [to_nat_of_valid n (folds_bounds n both.1).1]
        exact Or.inr both
    · have here : folds c.toNat = true :=
        (folds_iff _).mpr ⟨run, member, _, covered, Or.inl rfl⟩
      have there : folds n = true := by
        rcases found with rfl | ⟨other, among, source⟩
        · exact (folds_iff _).mpr ⟨run, member, _, covered, Or.inr image⟩
        · exact (moved _ other among source).1
      rw [to_nat_of_valid n (folds_bounds n there).1]
      exact Or.inr ⟨there, here⟩

theorem self_mem_same_case (c : Char) : c ∈ sameCase c := by
  by_cases ascii : c.toNat < 128
  · rw [sameCase, if_pos ascii]
    have checked := ascii_self_mem c.toNat ascii
    rwa [Char.ofNat_toNat, List.contains_iff_mem] at checked
  · refine (mem_same_case_beyond c c ascii).mpr ⟨c.toNat, (Char.ofNat_toNat c).symm, ?_⟩
    rcases fold_cases c with still | ⟨run, member, covered, image⟩
    · exact Or.inl still.symm
    · refine Or.inr ⟨run, member, ?_⟩
      rw [image, CaseRun.source_apply run (run_placed run member) _ covered]

theorem same_case_word (c l : Char) (same : l ∈ sameCase c) :
    wordRanges.has l = wordRanges.has c := by
  rcases same_case_folds c l same with rfl | ⟨here, there⟩
  · rfl
  · rw [Ranges.has, Ranges.has, folds_in_words _ here, folds_in_words _ there]

theorem mem_same_case_sign (c sign : Char) (ascii : sign.toNat < 128)
    (other : isAsciiLetter sign = false) : sign ∈ sameCase c ↔ c = sign := by
  constructor
  · intro same
    rcases same_case_folds c sign same with equal | ⟨moved, -⟩
    · exact equal.symm
    · have bounds := (folds_bounds _ moved).2 ascii
      simp only [isAsciiLetter, Bool.or_eq_false_iff, Bool.and_eq_false_iff,
        decide_eq_false_iff_not, Char.le_def, UInt32.le_iff_toNat_le] at other
      change (¬ 0x61 ≤ sign.toNat ∨ ¬ sign.toNat ≤ 0x7A) ∧
        (¬ 0x41 ≤ sign.toNat ∨ ¬ sign.toNat ≤ 0x5A) at other
      omega
  · rintro rfl
    exact self_mem_same_case c

end ContentFilter.Unicode
