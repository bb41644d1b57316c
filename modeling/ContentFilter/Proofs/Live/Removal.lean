import ContentFilter.Proofs.Live.RuleFile

namespace ContentFilter

def filledLines (lines : List Text) : List Text := (lines.map Text.trim).filter (· ≠ [])

/-- Lines that are written and read again are the same but for white space, of which a single empty
line is all. -/
theorem filled_file_text (lines : List Text) (single : ∀ line ∈ lines, '\n' ∉ line) :
    filledLines (LiveFilter.fileText lines).lines = filledLines lines := by
  rw [LiveFilter.fileText]
  split
  · rename_i alone
    rw [alone]
    rfl
  · rw [filledLines, Text.unlines_is_text_of lines single]
    rfl

section without

variable (lines : List Text) (line : Text)

theorem filled_without :
    filledLines (lines.filter fun other => Text.trim other != line) =
      (filledLines lines).filter (· ≠ line) := by
  have trimmed : (lines.filter fun other => Text.trim other != line).map Text.trim =
      (lines.map Text.trim).filter (· ≠ line) := by
    rw [List.filter_map]
    congr 1
    apply List.filter_congr
    intro other _
    rw [Function.comp_apply, bne, decide_not, Bool.beq_eq_decide_eq]
  rw [filledLines, trimmed, filledLines, List.filter_comm]

end without

namespace LiveFilter

def subscribedLines (f : LiveFilter) (files : FileTree) : List Text :=
  ((f.settings.enabledSubscriptions.map fun list =>
    f.cache.contribution files (listSource list)).filterMap id).flatten

variable (f : LiveFilter) (files : FileTree)

/-- While the file of the user's rules can be read, a reload builds the rules of the other lists and
then those of the file. -/
theorem reload_subscribed_and_own (names : f.settings.NamesApart) (lines : List Text)
    (read : files.readLinesIfAny f.settings.localRules = .ok lines) :
    (f.reload files).1.active = (Builder.addLines {} (f.subscribedLines files ++ lines)).set := by
  have counted := counted_eq f files
  rw [local_contribution f.cache files f.settings lines read] at counted
  rw [reload_active f files names (by simp [counted]), counted, List.flatten_append]
  simp [subscribedLines]

/-- What there is when a line was taken out of the file: the other lines of the file are left and
all other files are as they were, and the rules in effect are those of the lists subscribed to and
then those of the lines that are left. -/
structure LeavesOthers (stored : List Text) (line : Text) (after : Edited) (left : List Text) :
    Prop where
  read : after.files.readLines f.settings.localRules = .ok left
  gone : ∀ other ∈ left, other.trim ≠ line
  others : filledLines left = (filledLines stored).filter (· ≠ line)
  elsewhere : ∀ place, files.locate f.settings.localRules ≠ .ok place →
    after.files.entryAt? place = files.entryAt? place
  active : f.settings.NamesApart →
    after.filter.active = (Builder.addLines {} (f.subscribedLines after.files ++ left)).set

theorem leaves_others (stored : List Text) (single : ∀ other ∈ stored, '\n' ∉ other)
    (line : Text) (some_line : line ≠ []) (after : FileTree)
    (written : files.write f.settings.localRules (Utf8.encode (fileText
      (stored.filter fun other => Text.trim other != line))) = .ok after)
    (result : Except Failure Bool) :
    f.LeavesOthers files stored line ⟨(f.reload after).1, after, result⟩
      (fileText (stored.filter fun other => Text.trim other != line)).lines := by
  obtain ⟨place, led, free, rfl⟩ := files.write_ok after f.settings.localRules _ written
  generalize left : fileText (stored.filter fun other => Text.trim other != line) = text at *
  have read := files.read_put place (Utf8.encode text) free f.settings.localRules led
  have decoded : text.lines = linesOf (Utf8.encode text) := by
    rw [linesOf, Utf8.decodeLossy_encode]
  have others : filledLines text.lines = (filledLines stored).filter (· ≠ line) := by
    rw [← left, filled_file_text, filled_without]
    intro other member
    exact single other (List.mem_of_mem_filter member)
  refine ⟨?_, ?_, others, ?_, ?_⟩
  · exact (FileTree.read_lines_ok _ _ _).mpr ⟨_, read, decoded⟩
  · intro other member same
    have filled : line ∈ filledLines text.lines := by
      rw [← same, filledLines, List.mem_filter]
      exact ⟨List.mem_map_of_mem member, by simpa [same] using some_line⟩
    rw [others] at filled
    simpa using (List.mem_filter.mp filled).2
  · intro other elsewhere
    refine files.entry_put_other place other _ ?_
    rintro rfl
    exact elsewhere led
  · intro names
    apply reload_subscribed_and_own f _ names
    exact (FileTree.read_lines_if_any_ok _ _ _).mpr (Or.inl ⟨_, read, decoded⟩)

/-- A line is removed if the file has it, however often and with whatever white space around it, and
nothing else is; if the file does not have it nothing changes. -/
theorem removal_takes_line_alone (line : Text) (some_line : line.trim ≠ []) (bytes : List UInt8)
    (read : files.read f.settings.localRules = .ok bytes ∨
      bytes = [] ∧ files.read f.settings.localRules = .error .notFound) :
    ((f.removeRule files line).result = .ok true ↔
        ∃ other ∈ linesOf bytes, other.trim = line.trim) ∧
      ((¬ ∃ other ∈ linesOf bytes, other.trim = line.trim) →
        f.removeRule files line = ⟨f, files, .ok false⟩) ∧
      ((f.removeRule files line).result = .ok true →
        ∃ left, f.LeavesOthers files (linesOf bytes) line.trim (f.removeRule files line) left) := by
  have stored : files.readLinesIfAny f.settings.localRules = .ok (linesOf bytes) := by
    apply (files.read_lines_if_any_ok _ _).mpr
    rcases read with present | ⟨rfl, missing⟩
    · exact Or.inl ⟨bytes, present, rfl⟩
    · exact Or.inr ⟨missing, rfl⟩
  have single := Text.single_of_lines (Utf8.decodeLossy bytes)
  have outcome := remove_rule_step f files line
  generalize f.removeRule files line = edited at outcome ⊢
  cases outcome with
  | blank nothing => exact absurd nothing some_line
  | unread _ fault failed => cases failed.symm.trans stored
  | absent _ lines same all =>
      obtain rfl := Except.ok.inj (same.symm.trans stored)
      rw [none_left_out_iff] at all
      refine ⟨?_, fun _ => rfl, fun removed => by cases removed⟩
      refine iff_of_false (by simp) ?_
      rintro ⟨other, member, found⟩
      exact all other member found
  | unwritten _ lines same fewer fault failed =>
      -- a file that was read and has lines can be written
      obtain ⟨after, written, -⟩ := f.rewrite_reloads files lines _ same (ne_nil_of_fewer fewer)
      cases written.symm.trans failed
  | rewritten _ lines same fewer after written =>
      obtain ⟨other, again, -, tally, reloaded⟩ :=
        f.rewrite_reloads files lines _ same (ne_nil_of_fewer fewer)
      obtain rfl := Except.ok.inj (again.symm.trans written)
      obtain rfl := Except.ok.inj (same.symm.trans stored)
      have found : ∃ other ∈ linesOf bytes, other.trim = line.trim := by
        rw [Ne, none_left_out_iff] at fewer
        push Not at fewer
        exact fewer
      refine ⟨iff_of_true (by rw [reloaded]; rfl) found, fun absent => absurd found absent, ?_⟩
      intro _
      exact ⟨_, leaves_others f files (linesOf bytes) single line.trim some_line other written _⟩

def untidyRules : List UInt8 :=
  Utf8.encode "##.ad\r\n\n\t##.ad\n/x".toList ++ [0xFF] ++ Utf8.encode "\r/\r\n##.ad".toList

def untidyTree : FileTree :=
  ((oneFile "lists".toList "easylist".toList "##.banner\n".toList).put ["custom".toList]
    .directory).put ["rules".toList, "custom".toList] (.file untidyRules)

theorem untidy_rules_keep_others :
    (removeRule { settings := customDirectory } untidyTree " ##.ad".toList).result = .ok true ∧
      ∃ left,
        (removeRule { settings := customDirectory } untidyTree " ##.ad".toList).files.readLines
          "/custom/rules".toList = .ok left ∧
        filledLines left = ["/x\uFFFD\r/".toList] ∧
        (removeRule { settings := customDirectory } untidyTree " ##.ad".toList).filter.active =
          (Builder.addLines {} ("##.banner".toList :: left)).set := by
  obtain ⟨found, -, leaves⟩ := removal_takes_line_alone { settings := customDirectory } untidyTree
    " ##.ad".toList (by decide) untidyRules (Or.inl rfl)
  have removed := found.mpr ⟨"\t##.ad".toList, by decide, by decide⟩
  obtain ⟨left, others⟩ := leaves removed
  refine ⟨removed, left, others.read, ?_, ?_⟩
  · rw [others.others]
    decide
  · rw [others.active ⟨by decide, by decide⟩]
    rfl

end LiveFilter

end ContentFilter
