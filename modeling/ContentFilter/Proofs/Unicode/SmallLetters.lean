import ContentFilter.Proofs.Text.LetterCase
import ContentFilter.Proofs.Unicode.CaseClasses
/-!
Small letters and folding. Two characters are of one class just when folding takes them to the same
character; and the small letter of a capital is of its class, but for that of the dotted capital I,
which is two characters, and those of the capitals that folding does not know yet.
-/
namespace ContentFilter.Unicode

namespace CaseRun

theorem final (run : CaseRun) (member : run ∈ foldingRuns) (n : Nat)
    (covered : run.covers n = true) (other : CaseRun) (among : other ∈ foldingRuns) :
    other.covers (run.apply n) = false := by
  rw [Bool.eq_false_iff]
  intro again
  have source : foldingSources.testBit (run.apply n) = true := bits_test (·.1) _ other among _ again
  have image : foldingImages.testBit (run.apply n) = true := bits_test (·.2) _ run member n covered
  rw [test_of_apart _ _ folding_tables.1 _ source] at image
  cases image

def ascend : List CaseRun → Bool
  | [] => true
  | [run] => run.first.ble run.last
  | run :: next :: rest =>
    run.first.ble run.last && run.last.blt next.first && ascend (next :: rest)

theorem folding_runs_ascend : ascend foldingRuns = true := by decide +kernel

theorem last_lt_first (run : CaseRun) (rest : List CaseRun)
    (ascends : ascend (run :: rest) = true) :
    (∀ other ∈ rest, run.last < other.first) ∧ ascend rest = true := by
  induction rest generalizing run with
  | nil => exact ⟨fun other member => absurd member List.not_mem_nil, rfl⟩
  | cons next rest ih =>
      simp only [ascend, Bool.and_eq_true, Nat.ble_eq, Nat.blt_eq] at ascends
      obtain ⟨⟨-, before⟩, later⟩ := ascends
      have placed : next.first ≤ next.last := by
        cases rest with
        | nil => simpa [ascend] using later
        | cons third rest =>
            simp only [ascend, Bool.and_eq_true, Nat.ble_eq] at later
            exact later.1.1
      refine ⟨?_, later⟩
      intro other member
      rcases List.mem_cons.mp member with rfl | among
      · exact before
      · have apart := (ih next later).1 other among
        omega

theorem image_cons (run : CaseRun) (runs : List CaseRun) (n : Nat) :
    image (run :: runs) n = if run.covers n then run.apply n else image runs n := by
  rw [image, List.find?_cons]
  by_cases covered : run.covers n = true
  · simp [covered]
  · simp [covered, image]

theorem image_of_covers (runs : List CaseRun)
    (ascends : ascend runs = true) (run : CaseRun) (member : run ∈ runs)
    (n : Nat) (covered : run.covers n = true) : image runs n = run.apply n := by
  induction runs with
  | nil => cases member
  | cons first rest ih =>
      obtain ⟨before, later⟩ := last_lt_first first rest ascends
      rw [image_cons]
      rcases List.mem_cons.mp member with rfl | among
      · rw [if_pos covered]
      · have other : ¬ first.covers n = true := by
          intro here
          have ended := ((covers_iff first n).mp here).2.1
          have begun := ((covers_iff run n).mp covered).1
          have apart := before run among
          omega
        rw [if_neg other, ih later among]

theorem image_of_none (runs : List CaseRun) (n : Nat)
    (uncovered : ∀ run ∈ runs, run.covers n = false) : image runs n = n := by
  rcases image_cases runs n with still | ⟨run, member, covered, -⟩
  · exact still
  · rw [uncovered run member] at covered
    cases covered

end CaseRun

theorem fold_of_covers (c : Char) (run : CaseRun) (member : run ∈ foldingRuns)
    (covered : run.covers c.toNat = true) : (fold c).toNat = run.apply c.toNat := by
  have image := (CaseRun.placed_bounds run (run_placed run member) _ covered).2.1
  rw [fold, CaseRun.image_of_covers foldingRuns CaseRun.folding_runs_ascend run member _ covered,
    to_nat_of_valid _ image]

theorem char_of_to_nat (c d : Char) (same : c.toNat = d.toNat) : c = d := by
  rw [← Char.ofNat_toNat c, same, Char.ofNat_toNat]

@[simp] theorem fold_fold (c : Char) : fold (fold c) = fold c := by
  rcases fold_cases c with still | ⟨run, member, covered, image⟩
  · have same := char_of_to_nat _ _ still
    rw [same, same]
  · have uncovered := CaseRun.final run member _ covered
    rw [← image] at uncovered
    have still := CaseRun.image_of_none foldingRuns _ uncovered
    conv => lhs; rw [fold, still, Char.ofNat_toNat]

theorem fold_ascii (c : Char) (ascii : c.toNat < 128) : fold c = c.toLower := by
  -- the runs ascend, and the first one is that of the ASCII capitals
  have capitals : foldingRuns = ⟨0x41, 0x5A, 1, 32⟩ :: foldingRuns.tail := rfl
  have beyond := (CaseRun.last_lt_first ⟨0x41, 0x5A, 1, 32⟩ foldingRuns.tail
    CaseRun.folding_runs_ascend).1
  have uncovered : ∀ run ∈ foldingRuns.tail, run.covers c.toNat = false := by
    intro run member
    rw [Bool.eq_false_iff]
    intro covered
    have capital := (CaseRun.placed_bounds run (run_placed run (List.mem_of_mem_tail member)) _
      covered).1.2 ascii
    have begun := ((CaseRun.covers_iff run _).mp covered).1
    have apart := beyond run member
    dsimp only at apart
    omega
  rw [fold, capitals, CaseRun.image_cons, CaseRun.image_of_none _ _ uncovered]
  split
  · rename_i covered
    obtain ⟨low, high, -⟩ := (CaseRun.covers_iff _ _).mp covered
    have lowered : ∀ n ≤ 0x5A, 0x41 ≤ n →
        Char.ofNat (CaseRun.apply ⟨0x41, 0x5A, 1, 32⟩ n) = (Char.ofNat n).toLower := by decide
    rw [lowered c.toNat high low, Char.ofNat_toNat]
  · rename_i uncovered
    rw [Char.ofNat_toNat]
    rcases to_lower_cases c with small | ⟨n, low, high, rfl⟩
    · exact small.symm
    · have capital : ∀ n ≤ 'Z'.toNat, 'A'.toNat ≤ n →
          CaseRun.covers ⟨0x41, 0x5A, 1, 32⟩ (Char.ofNat n).toNat = true := by decide
      exact absurd (capital n high low) uncovered

/-- Letters beyond ASCII with what folding takes them to: those of a class with an ASCII letter, and
the sigmas. -/
def foldedLetters : List (Char × Char) :=
  [('\u212A', 'k'), ('\u017F', 's'), ('Σ', 'σ'), ('ς', 'σ'), ('σ', 'σ')]

theorem folded_letters_fold : foldedLetters.all (fun (l, c) => fold l == c) = true := by
  decide +kernel

theorem fold_of_listed (l c : Char) (listed : (l, c) ∈ foldedLetters) : fold l = c := by
  have folded := List.all_eq_true.mp folded_letters_fold (l, c) listed
  exact eq_of_beq folded

theorem ascii_class_listed : ∀ n < 128, (asciiSameCase (Char.ofNat n)).all (fun l =>
    (decide (l.toNat < 128) && l.toLower == (Char.ofNat n).toLower) ||
      foldedLetters.contains (l, (Char.ofNat n).toLower)) = true := by decide +kernel

theorem fold_of_ascii_class (c l : Char) (ascii : c.toNat < 128) (member : l ∈ asciiSameCase c) :
    fold l = fold c := by
  have checked := ascii_class_listed c.toNat ascii
  rw [Char.ofNat_toNat] at checked
  have listed := List.all_eq_true.mp checked l member
  rw [Bool.or_eq_true, Bool.and_eq_true, decide_eq_true_eq, beq_iff_eq, List.contains_iff_mem]
    at listed
  rw [fold_ascii c ascii]
  rcases listed with ⟨low, same⟩ | outer
  · rw [fold_ascii l low, same]
  · exact fold_of_listed l _ outer

theorem to_lower_ascii (c : Char) : c.toNat < 128 → c.toLower.toNat < 128 :=
  of_capitals (p := fun c l => c.toNat < 128 → l.toNat < 128) (fun _ ascii => ascii) (by decide) c

theorem ascii_class_lower (c : Char) : asciiSameCase c.toLower = asciiSameCase c :=
  of_capitals (p := fun c l => asciiSameCase l = asciiSameCase c) (fun _ => rfl) (by decide) c

def CaseRun.isListed (run : CaseRun) : Bool :=
  Nat.ble 128 (run.apply run.first) ||
    run.pairs.all fun (n, f) => (asciiSameCase (Char.ofNat f)).contains (Char.ofNat n)

theorem folding_runs_listed : foldingRuns.all CaseRun.isListed = true := by decide +kernel

theorem ascii_class_of_same_fold (c l : Char) (ascii : c.toNat < 128) (same : fold l = fold c) :
    l ∈ asciiSameCase c := by
  have low := to_lower_ascii c ascii
  rw [← ascii_class_lower c]
  rw [← fold_ascii c ascii, ← same] at low ⊢
  rcases fold_cases l with still | ⟨run, member, covered, image⟩
  · rw [char_of_to_nat _ _ still] at low ⊢
    have checked := ascii_self_mem l.toNat low
    rwa [Char.ofNat_toNat, List.contains_iff_mem] at checked
  · have listed := List.all_eq_true.mp folding_runs_listed run member
    have least := CaseRun.apply_le_apply run _ _ ((CaseRun.covers_iff run l.toNat).mp covered).1
    rw [CaseRun.isListed, Bool.or_eq_true, Nat.ble_eq] at listed
    rcases listed with beyond | pairs
    · omega
    · have found := List.all_eq_true.mp pairs _ (CaseRun.mem_pairs run l.toNat covered)
      dsimp only at found
      rwa [← image, Char.ofNat_toNat, Char.ofNat_toNat, List.contains_iff_mem] at found

/-- A class holds the characters that folding takes to the same character. -/
theorem same_case_iff (c l : Char) : l ∈ sameCase c ↔ fold l = fold c := by
  by_cases ascii : c.toNat < 128
  · rw [sameCase, if_pos ascii]
    exact ⟨fold_of_ascii_class c l ascii, ascii_class_of_same_fold c l ascii⟩
  · rw [mem_same_case_beyond c l ascii]
    constructor
    · rintro ⟨n, rfl, rfl | ⟨run, member, source⟩⟩
      · rw [Char.ofNat_toNat, fold_fold]
      · obtain ⟨covered, image⟩ := CaseRun.source_eq_some run _ n source
        have valid := (CaseRun.placed_bounds run (run_placed run member) n covered).1.1
        have here := to_nat_of_valid n valid
        apply char_of_to_nat
        rw [fold_of_covers _ run member (by rwa [here]), here, image]
    · intro same
      refine ⟨l.toNat, (Char.ofNat_toNat l).symm, ?_⟩
      rw [← same]
      rcases fold_cases l with still | ⟨run, member, covered, image⟩
      · exact Or.inl still.symm
      · refine Or.inr ⟨run, member, ?_⟩
        rw [image, CaseRun.source_apply run (run_placed run member) _ covered]

namespace CaseRun

def inverse (run : CaseRun) : CaseRun :=
  ⟨run.apply run.first, run.apply run.last, run.step, -run.shift⟩

/-- The run keeps classes: it undoes what folding does, or has been checked letter by letter. -/
def keepsClasses (run : CaseRun) : Bool :=
  (decide (0 ≤ Int.ofNat run.first + run.shift) && foldingRuns.contains run.inverse) ||
    run.pairs.all fun (n, l) =>
      unfoldedCapitals.hasCode n || fold (Char.ofNat l) == fold (Char.ofNat n)

theorem lower_runs_keep_classes : (lowerRuns.diff foldingRuns).all keepsClasses = true := by
  decide +kernel

theorem inverse_covers (run : CaseRun) (shifted : 0 ≤ Int.ofNat run.first + run.shift) (n : Nat)
    (covered : run.covers n = true) :
    run.inverse.covers (run.apply n) = true ∧ run.inverse.apply (run.apply n) = n := by
  obtain ⟨low, high, whole⟩ := (covers_iff run n).mp covered
  have distance : run.apply n - run.apply run.first = n - run.first := by
    simp only [apply, Int.ofNat_eq_natCast] at shifted ⊢
    omega
  refine ⟨(covers_iff _ _).mpr ⟨?_, ?_, ?_⟩, ?_⟩
  · exact apply_le_apply run _ _ low
  · exact apply_le_apply run _ _ high
  · exact distance ▸ whole
  · simp only [inverse, apply, Int.ofNat_eq_natCast] at shifted ⊢
    omega

end CaseRun

theorem fold_of_lower_run (c : Char) (run : CaseRun) (member : run ∈ lowerRuns)
    (covered : run.covers c.toNat = true) (known : unfoldedCapitals.has c = false) :
    fold (Char.ofNat (run.apply c.toNat)) = fold c := by
  by_cases among : run ∈ foldingRuns
  · rw [← fold_of_covers c run among covered, Char.ofNat_toNat, fold_fold]
  have left := List.mem_diff_of_mem member among
  have keeps := List.all_eq_true.mp CaseRun.lower_runs_keep_classes run left
  rw [CaseRun.keepsClasses, Bool.or_eq_true, Bool.and_eq_true, decide_eq_true_eq,
    List.contains_iff_mem] at keeps
  rcases keeps with ⟨shifted, undone⟩ | pairs
  · obtain ⟨back, same⟩ := CaseRun.inverse_covers run shifted _ covered
    have valid := (CaseRun.placed_bounds run.inverse (run_placed _ undone) _ back).1.1
    have small := to_nat_of_valid _ valid
    have folded : fold (Char.ofNat (run.apply c.toNat)) = c := by
      apply char_of_to_nat
      rw [fold_of_covers _ run.inverse undone (by rwa [small]), small, same]
    calc fold (Char.ofNat (run.apply c.toNat))
      _ = fold (fold (Char.ofNat (run.apply c.toNat))) := (fold_fold _).symm
      _ = fold c := by rw [folded]
  · have checked := List.all_eq_true.mp pairs _ (CaseRun.mem_pairs run c.toNat covered)
    rw [Ranges.has] at known
    simp only [known, Bool.false_or, beq_iff_eq, Char.ofNat_toNat] at checked
    exact checked

theorem lower_char_folds (c : Char) (known : unfoldedCapitals.has c = false) :
    ∃ l, lowerChar c = [l] ∧ fold l = fold c := by
  rw [lowerChar]
  split
  · rename_i ascii
    refine ⟨c.toLower, rfl, ?_⟩
    rw [fold_ascii c ascii, fold_ascii _ (to_lower_ascii c ascii)]
    simp
  · split
    · rename_i dotted
      subst dotted
      cases known
    · refine ⟨_, rfl, ?_⟩
      rcases CaseRun.image_cases lowerRuns c.toNat with still | ⟨run, member, covered, image⟩
      · rw [still, Char.ofNat_toNat]
      · rw [image]
        exact fold_of_lower_run c run member covered known

end ContentFilter.Unicode

namespace ContentFilter.Text

open Unicode

/-- In small letters a text has as many characters, of the same classes. -/
theorem lower_folds (before s : Text) (known : ∀ c ∈ s, unfoldedCapitals.has c = false) :
    (lowerFrom before s).map fold = s.map fold := by
  induction s generalizing before with
  | nil => rfl
  | cons c s ih =>
      have later := ih (c :: before) fun d member => known d (List.mem_cons_of_mem c member)
      have here : (if c = 'Σ' then [if meetsCased before && !meetsCased s then 'ς' else 'σ']
          else lowerChar c).map fold = [fold c] := by
        split
        · rename_i sigma
          rw [sigma, List.map_singleton, fold_of_listed 'Σ' 'σ' (by decide)]
          split
          · rw [fold_of_listed 'ς' 'σ' (by decide)]
          · rw [fold_of_listed 'σ' 'σ' (by decide)]
        · obtain ⟨l, lowered, folded⟩ := lower_char_folds c (known c List.mem_cons_self)
          rw [lowered, List.map_singleton, folded]
      rw [lowerFrom, List.map_append, here, later]
      rfl

end ContentFilter.Text
