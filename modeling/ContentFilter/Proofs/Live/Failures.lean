import ContentFilter.Proofs.Live.RuleFile

namespace ContentFilter

namespace FileTree

/-- The files of both trees are the same and have the same content. Nothing of `t` is missing in
`s`, which may have more directories. -/
structure SameFiles (t s : FileTree) : Prop where
  keeps : Keeps t s
  files : ∀ place content,
    s.entryAt? place = some (.file content) → t.entryAt? place = some (.file content)

theorem same_files_refl (t : FileTree) : SameFiles t t :=
  ⟨keeps_refl t, fun _ _ present => present⟩

theorem same_files_parent (t : FileTree) (path : Text) : SameFiles t (t.createParent path).1 :=
  ⟨create_parent_keeps t path, create_parent_file t path⟩

theorem append_line_fails (t : FileTree) (path line : Text) (failure : Failure)
    (failed : (t.appendLine path line).2 = .error failure) :
    SameFiles t (t.appendLine path line).1 := by
  rcases t.append_line_cases path line with ⟨other, unwritten⟩ | ⟨place, -, -, written⟩
  · rw [unwritten]
    exact same_files_parent t path
  · rw [written] at failed
    cases failed

end FileTree

theorem LineCache.gather_nothing (files : FileTree) (cache : LineCache) (sources : List Source)
    (nothing : ∀ lines ∈ (gather files cache sources).2, lines = none) :
    (gather files cache sources).1 = cache := by
  induction sources generalizing cache with
  | nil => rfl
  | cons source rest ih =>
      rw [gather] at nothing ⊢
      cases read : source.readLines files with
      | ok lines =>
          rw [read] at nothing
          cases nothing _ List.mem_cons_self
      | error failure =>
          rw [read] at nothing
          exact ih cache fun lines member => nothing lines (List.mem_cons_of_mem _ member)

namespace LiveFilter

section fails

variable (f : LiveFilter) (files : FileTree)

theorem reload_from_fails (sources : List Source) (failure : Failure)
    (failed : (f.reloadFrom files sources).2 = .error failure) :
    (f.reloadFrom files sources).1 = f := by
  rw [reloadFrom] at failed ⊢
  dsimp only at failed ⊢
  split at failed
  · rename_i none_read
    rw [if_pos none_read]
    have empty := (Bool.and_eq_true_iff.mp none_read).2
    have nothing : ∀ lines ∈ (f.cache.gather files sources).2, lines = none := by
      simpa [List.isEmpty_iff, List.filterMap_eq_nil_iff] using empty
    rw [LineCache.gather_nothing files f.cache sources nothing]
  · cases failed

theorem add_rule_fails (line : Text) (failure : Failure)
    (failed : (f.addRule files line).result = .error failure) :
    (f.addRule files line).filter = f ∧ files.SameFiles (f.addRule files line).files := by
  have outcome := add_rule_step f files line
  generalize f.addRule files line = edited at outcome failed ⊢
  cases outcome with
  | blank => exact ⟨rfl, files.same_files_refl⟩
  | unread => exact ⟨rfl, files.same_files_refl⟩
  | known => exact ⟨rfl, files.same_files_refl⟩
  | unwritten _ _ _ _ after other unwritten =>
      have same := files.append_line_fails f.settings.localRules line.trim other
      rw [unwritten] at same
      exact ⟨rfl, same rfl⟩
  | stored => cases failed

/-- What a removal can come to. It fails only where the file cannot be read to begin with. -/
theorem remove_rule_outcome (line : Text) :
    f.removeRule files line =
      if line.trim.isEmpty then ⟨f, files, .ok false⟩
      else match files.readLinesIfAny f.settings.localRules with
        | .error fault => ⟨f, files, .error (.file f.settings.localRules fault)⟩
        | .ok _ =>
          match rewrittenBy? f.settings files line with
          | none => ⟨f, files, .ok false⟩
          | some after => ⟨(f.reload after).1, after, .ok true⟩ := by
  by_cases nothing : line.trim = []
  · simp [removeRule, nothing]
  · cases read : files.readLinesIfAny f.settings.localRules with
    | error fault => simp [removeRule, nothing, read]
    | ok lines =>
        rw [if_neg (mt List.isEmpty_iff.mp nothing)]
        have rewritten (after : FileTree) :=
          rewritten_by_eq_some_iff f.settings files after line
        simp only [read, Except.ok.injEq, exists_eq_left'] at rewritten
        rcases f.remove_rule_of_read files line lines read with
          ⟨absent, removed⟩ | ⟨present, after, written, -, removed⟩
        · have none_left : rewrittenBy? f.settings files line = none := by
            rw [Option.eq_none_iff_forall_ne_some]
            exact fun after found => absent ((rewritten after).mp found).1
          rw [none_left, removed]
        · rw [(rewritten after).mpr ⟨present, written⟩, removed]

theorem remove_rule_fails (line : Text) (failure : Failure)
    (failed : (f.removeRule files line).result = .error failure) :
    (f.removeRule files line).filter = f ∧ (f.removeRule files line).files = files := by
  rw [remove_rule_outcome] at failed ⊢
  split
  · exact ⟨rfl, rfl⟩
  · rename_i some_line
    rw [if_neg some_line] at failed
    split
    · exact ⟨rfl, rfl⟩
    · rename_i known read
      rw [read] at failed
      dsimp only at failed
      split at failed <;> cases failed

theorem rewritten_some (s : Settings) (line : Text) (after : FileTree)
    (rewritten : rewrittenBy? s files line = some after) :
    line.trim.isEmpty = false ∧ (∃ known, files.readLinesIfAny s.localRules = .ok known) ∧
      ∃ bytes, after.read s.localRules = .ok bytes := by
  obtain ⟨known, read, ⟨some_line, -⟩, written⟩ :=
    (rewritten_by_eq_some_iff s files after line).mp rewritten
  obtain ⟨place, led, free, rfl⟩ := files.write_ok after s.localRules _ written
  exact ⟨List.isEmpty_eq_false_iff.mpr some_line, ⟨known, read⟩, _,
    files.read_put place _ free _ led⟩

end fails

def FailsWith (f : LiveFilter) (files : FileTree) (failure : Failure) : Step → Prop
  | .edit (.add line) => (f.addRule files line).result = .error failure
  | .edit (.remove line) => (f.removeRule files line).result = .error failure
  | .edit .reload => (f.reload files).2 = .error failure
  | .load sources => (f.reloadFrom files sources).2 = .error failure
  | .configure _ => False

def filesAfter (f : LiveFilter) (files : FileTree) : Step → FileTree
  | .edit e => (f.edit files e).2
  | _ => files

/-- A step that fails changes neither the filter nor any file, and none but an addition makes a
directory. A removal that has written the file can read it again, and it reloads and succeeds. -/
theorem failed_steps_change_nothing (f : LiveFilter) (files : FileTree) :
    (∀ s failure, f.FailsWith files failure s →
      f.step files s = f ∧ files.SameFiles (f.filesAfter files s) ∧
        ((∀ line, s ≠ .edit (.add line)) → f.filesAfter files s = files)) ∧
    ∀ line after, rewrittenBy? f.settings files line = some after →
      (∃ bytes, after.read f.settings.localRules = .ok bytes) ∧
        (∃ tally, (f.reload after).2 = .ok tally) ∧
          f.removeRule files line = ⟨(f.reload after).1, after, .ok true⟩ := by
  constructor
  · intro s failure failed
    cases s with
    | edit e =>
        cases e with
        | add line =>
            obtain ⟨filter, same⟩ := f.add_rule_fails files line failure failed
            exact ⟨filter, same, fun other => absurd rfl (other line)⟩
        | remove line =>
            obtain ⟨filter, same⟩ := f.remove_rule_fails files line failure failed
            rw [step, filesAfter, edit, filter, same]
            exact ⟨rfl, files.same_files_refl, fun _ => rfl⟩
        | reload =>
            have unchanged := f.reload_from_fails files _ failure failed
            exact ⟨unchanged, files.same_files_refl, fun _ => rfl⟩
    | load sources =>
        have unchanged := f.reload_from_fails files sources failure failed
        exact ⟨unchanged, files.same_files_refl, fun _ => rfl⟩
    | configure settings => exact failed.elim
  · intro line after rewritten
    obtain ⟨some_line, ⟨known, read⟩, bytes, found⟩ := rewritten_some files f.settings line after
      rewritten
    have reloaded := reload_ok_of_read f after _
      ((after.read_lines_if_any_ok _ _).mpr (Or.inl ⟨bytes, found, rfl⟩))
    refine ⟨⟨bytes, found⟩, reloaded, ?_⟩
    rw [f.remove_rule_outcome files line, some_line, read, rewritten]
    rfl

def slashedWithin : Settings where
  localRules := "rules/new/".toList

/-- The addition makes a directory before it fails. In a file that both lists are read from a
removal finds its line twice. -/
theorem failed_addition_makes_directory :
    FailsWith { settings := slashedWithin } (FileTree.emptyAt [])
        (.file "rules/new/".toList .isADirectory) (.edit (.add "##.ad".toList)) ∧
      step { settings := slashedWithin } (FileTree.emptyAt []) (.edit (.add "##.ad".toList)) =
        { settings := slashedWithin } ∧
      (filesAfter { settings := slashedWithin } (FileTree.emptyAt [])
        (.edit (.add "##.ad".toList))).entryAt? ["rules".toList] = some .directory ∧
      ∃ after,
        rewrittenBy? sharedFile (oneFile "lists".toList "rules".toList "##.ad\n##.ad\r\n/x/".toList)
          "##.ad".toList = some after ∧
        (removeRule { settings := sharedFile }
          (oneFile "lists".toList "rules".toList "##.ad\n##.ad\r\n/x/".toList)
            "##.ad".toList).result = .ok true := by
  have unchanged := (failed_steps_change_nothing { settings := slashedWithin }
    (FileTree.emptyAt [])).1 (.edit (.add "##.ad".toList)) _ rfl
  have removed := (failed_steps_change_nothing { settings := sharedFile }
    (oneFile "lists".toList "rules".toList "##.ad\n##.ad\r\n/x/".toList)).2 "##.ad".toList _ rfl
  refine ⟨rfl, unchanged.1, rfl, _, rfl, ?_⟩
  rw [removed.2.2]

end LiveFilter

end ContentFilter
