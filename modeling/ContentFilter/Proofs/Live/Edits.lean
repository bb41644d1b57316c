import ContentFilter.Proofs.Live.Reload
import ContentFilter.Proofs.Text.Lines
import ContentFilter.Text.Utf8.Lemmas
/-!
Edits of the rules of the user while the filter is in use. A rule that is added goes into the active
rules alone, a reload builds all of them anew; as long as the file of the user's rules ends in a
line feed, and no other list comes into play by its being written, both give the same rules after
any run of edits.
-/
namespace ContentFilter

def EndsLine (bytes : List UInt8) : Prop := bytes = [] ∨ bytes.getLast? = some 10

def linesOf (bytes : List UInt8) : List Text := (Utf8.decodeLossy bytes).lines

theorem encode_line (line : Text) : Utf8.encode (line ++ ['\n']) = Utf8.encode line ++ [10] := by
  rw [Utf8.encode, List.flatMap_append]
  rfl

theorem unlines_single (line : Text) : Text.unlines [line] = line ++ ['\n'] := by
  simp [Text.unlines]

theorem unlines_append_line (lines : List Text) (line : Text) :
    Text.unlines (lines ++ [line]) = Text.unlines lines ++ line ++ ['\n'] := by
  simp [Text.unlines]

theorem ends_line_unlines (lines : List Text) : EndsLine (Utf8.encode (Text.unlines lines)) := by
  rcases List.eq_nil_or_concat lines with rfl | ⟨front, last, rfl⟩
  · exact Or.inl rfl
  · rw [List.concat_eq_append, unlines_append_line, encode_line]
    exact Or.inr (by simp)

theorem ends_line_file_text (lines : List Text) :
    EndsLine (Utf8.encode (LiveFilter.fileText lines)) := by
  rw [LiveFilter.fileText]
  split
  · exact Or.inl rfl
  · exact ends_line_unlines lines

theorem lines_of_append (bytes : List UInt8) (line : Text) (ended : EndsLine bytes)
    (single : '\n' ∉ line) (trimmed : Text.IsTrimmed line) :
    linesOf (bytes ++ Utf8.encode (Text.unlines [line])) = linesOf bytes ++ [line] := by
  have joined : Utf8.decodeLossy (bytes ++ Utf8.encode (Text.unlines [line])) =
      Utf8.decodeLossy bytes ++ Text.unlines [line] ∧
        (Utf8.decodeLossy bytes = [] ∨ (Utf8.decodeLossy bytes).getLast? = some '\n') := by
    rcases ended with rfl | last
    · exact ⟨Utf8.decodeLossy_encode _, Or.inl rfl⟩
    · obtain ⟨front, rfl⟩ := List.getLast?_eq_some_iff.mp last
      rw [List.append_assoc, List.singleton_append, Utf8.decodeLossy_lineFeed,
        Utf8.decodeLossy_lineFeed, Utf8.decodeLossy_encode]
      exact ⟨by simp [Utf8.decodeLossy, Utf8.decode, Utf8.decodeFrom],
        Or.inr (by simp [Utf8.decodeLossy, Utf8.decode, Utf8.decodeFrom])⟩
  rw [linesOf, joined.1, Text.lines_append_line _ line joined.2 single trimmed, linesOf]

namespace FileTree

theorem read_lines_ok (files : FileTree) (path : Text) (lines : List Text) :
    files.readLines path = .ok lines ↔
      ∃ bytes, files.read path = .ok bytes ∧ lines = linesOf bytes := by
  rw [readLines]
  cases files.read path with
  | error fault => simp [Except.map]
  | ok bytes => simp [Except.map, linesOf, eq_comm]

theorem read_lines_if_any_ok (files : FileTree) (path : Text) (lines : List Text) :
    files.readLinesIfAny path = .ok lines ↔
      (∃ bytes, files.read path = .ok bytes ∧ lines = linesOf bytes) ∨
        files.read path = .error .notFound ∧ lines = [] := by
  rw [readLinesIfAny, readLines]
  cases files.read path with
  | error fault => cases fault <;> simp [Except.map, eq_comm]
  | ok bytes => simp [Except.map, linesOf, eq_comm]

/-- Where a line cannot be written the directory may have been made, where it can be it stands at
the end of the file. -/
theorem append_line_cases (files : FileTree) (path line : Text) :
    (∃ failure, files.appendLine path line = ((files.createParent path).1, .error failure)) ∨
      ∃ place, (files.createParent path).1.locate path = .ok place ∧
        (files.createParent path).1.entryAt? place ≠ some .directory ∧
          files.appendLine path line =
            ((files.createParent path).1.put place (.file
              ((files.createParent path).1.contentAt place ++
                Utf8.encode (Text.unlines [line]))), .ok ()) := by
  rw [appendLine]
  rcases files.createParent path with ⟨made, failure | _⟩
  · exact Or.inl ⟨failure, rfl⟩
  · dsimp only
    cases written : made.append path (Utf8.encode (Text.unlines [line])) with
    | error fault => exact Or.inl ⟨_, rfl⟩
    | ok after =>
        obtain ⟨place, led, free, rfl⟩ := append_ok made after path _ written
        exact Or.inr ⟨place, led, free, rfl⟩

end FileTree

namespace LiveFilter

inductive Edit
  | add (line : Text)
  | remove (line : Text)
  | reload
  deriving DecidableEq, Repr

def Edit.line : Edit → Text
  | add line => line
  | remove line => line
  | reload => []

def edit (f : LiveFilter) (files : FileTree) : Edit → LiveFilter × FileTree
  | .add line => ((f.addRule files line).filter, (f.addRule files line).files)
  | .remove line => ((f.removeRule files line).filter, (f.removeRule files line).files)
  | .reload => ((f.reload files).1, files)

def run (f : LiveFilter) (files : FileTree) (edits : List Edit) : LiveFilter × FileTree :=
  edits.foldl (fun state e => state.1.edit state.2 e) (f, files)

/-- No list comes into play when the file of the user's rules is written: the paths of the others
lead elsewhere, and nothing can be read all at once because the directory of the file is made. -/
structure KeptApart (s : Settings) (files : FileTree) : Prop where
  elsewhere : ∀ list ∈ s.enabledSubscriptions, ∀ place,
    (files.createParent s.localRules).1.locate list.path = .ok place →
      (files.createParent s.localRules).1.locate s.localRules ≠ .ok place
  concealed : ∀ path ∈ s.localRules :: s.enabledSubscriptions.map (·.path), ∀ bytes,
    (files.createParent s.localRules).1.read path = .ok bytes → files.read path = .ok bytes

/-- The state that every run of edits keeps to, from when the files were those of `start`. The
active rules are those of the lines that count. -/
structure Coherent (s : Settings) (start : FileTree) (f : LiveFilter) (files : FileTree) : Prop where
  settings : f.settings = s
  between : start.Between s.localRules files
  counted : f.counted files ≠ []
  active : f.active = (Builder.addLines {} (f.counted files).flatten).set
  ended : ∀ bytes, files.read s.localRules = .ok bytes → EndsLine bytes
  /-- A file that is missing counts as empty even when it cannot be looked for any more. -/
  missing : files.read s.localRules = .error .notFound →
    Table.get? f.cache localName = some [] ∧
      ∀ bytes, (files.createParent s.localRules).1.read s.localRules ≠ .ok bytes

def localSource (s : Settings) : Source := .file localName s.localRules true

def listSource (list : Subscription) : Source := .file list.name list.path false

theorem counted_eq (f : LiveFilter) (files : FileTree) :
    f.counted files =
      (f.settings.enabledSubscriptions.map fun list =>
        f.cache.contribution files (listSource list)).filterMap id ++
      (f.cache.contribution files (localSource f.settings)).toList := by
  rw [counted, contributions, configuredSources, List.map_append, List.map_map,
    List.filterMap_append]
  congr 1

theorem local_read_lines (files : FileTree) (s : Settings) (lines : List Text)
    (read : files.readLinesIfAny s.localRules = .ok lines) :
    (localSource s).readLines files = .ok lines := by
  rw [localSource, Source.readLines, if_pos rfl, read, Except.mapError]

theorem local_contribution (cache : LineCache) (files : FileTree) (s : Settings) (lines : List Text)
    (read : files.readLinesIfAny s.localRules = .ok lines) :
    cache.contribution files (localSource s) = some lines :=
  LineCache.contribution_ok files cache _ lines (local_read_lines files s lines read)

theorem hidden_contribution (cache : LineCache) (files : FileTree) (s : Settings)
    (entry : Table.get? cache localName = some [])
    (hidden : ∀ bytes, files.read s.localRules ≠ .ok bytes) :
    cache.contribution files (localSource s) = some [] := by
  cases read : files.readLinesIfAny s.localRules with
  | ok lines =>
      rcases (files.read_lines_if_any_ok _ lines).mp read with ⟨bytes, found, -⟩ | ⟨-, rfl⟩
      · exact absurd found (hidden bytes)
      · exact local_contribution cache files s [] read
  | error fault =>
      rw [LineCache.contribution, localSource, Source.readLines, if_pos rfl, read]
      exact entry

theorem list_read_lines (files : FileTree) (list : Subscription) (lines : List Text) :
    (listSource list).readLines files = .ok lines ↔
      ∃ bytes, files.read list.path = .ok bytes ∧ lines = linesOf bytes := by
  rw [← FileTree.read_lines_ok, listSource, Source.readLines]
  cases files.readLines list.path <;> simp [Except.mapError]

def withLine (f : LiveFilter) (line : Text) : LiveFilter :=
  { f.remember line with active := (Rule.inLine? line).elim f.active f.active.insert }

theorem remember_settings (f : LiveFilter) (line : Text) :
    (f.remember line).settings = f.settings := by
  rw [remember]
  split <;> rfl

theorem remember_active (f : LiveFilter) (line : Text) : (f.remember line).active = f.active := by
  rw [remember]
  split <;> rfl

theorem remember_other (f : LiveFilter) (line name : Text) (other : name ≠ localName) :
    Table.get? (f.remember line).cache name = Table.get? f.cache name := by
  rw [remember]
  split
  · rfl
  · rw [Table.get?_put, if_neg other]

/-- What adding a line can come to. -/
inductive Addition (f : LiveFilter) (files : FileTree) (line : Text) : Edited → Prop
  | blank (nothing : line.trim = []) : Addition f files line ⟨f, files, .ok false⟩
  | unread (some_line : line.trim ≠ []) (fault : FileFault)
      (read : files.readLinesIfAny f.settings.localRules = .error fault) :
      Addition f files line ⟨f, files, .error (.file f.settings.localRules fault)⟩
  | known (some_line : line.trim ≠ []) (lines : List Text)
      (read : files.readLinesIfAny f.settings.localRules = .ok lines)
      (found : (lines.any fun other => Text.trim other == line.trim) = true) :
      Addition f files line ⟨f, files, .ok false⟩
  | unwritten (some_line : line.trim ≠ []) (lines : List Text)
      (read : files.readLinesIfAny f.settings.localRules = .ok lines)
      (fresh : ¬ (lines.any fun other => Text.trim other == line.trim) = true) (after : FileTree)
      (failure : Failure)
      (failed : files.appendLine f.settings.localRules line.trim = (after, .error failure)) :
      Addition f files line ⟨f, after, .error failure⟩
  | stored (some_line : line.trim ≠ []) (lines : List Text)
      (read : files.readLinesIfAny f.settings.localRules = .ok lines)
      (fresh : ¬ (lines.any fun other => Text.trim other == line.trim) = true) (after : FileTree)
      (appended : files.appendLine f.settings.localRules line.trim = (after, .ok ())) :
      Addition f files line
        ⟨f.withLine line.trim, after, .ok (Rule.inLine? line.trim).isSome⟩

theorem add_rule_step (f : LiveFilter) (files : FileTree) (line : Text) :
    Addition f files line (f.addRule files line) := by
  rw [addRule]
  dsimp only
  by_cases nothing : line.trim = []
  · rw [if_pos (List.isEmpty_iff.mpr nothing)]
    exact .blank nothing
  · rw [if_neg (mt List.isEmpty_iff.mp nothing)]
    cases read : files.readLinesIfAny f.settings.localRules with
    | error fault => exact .unread nothing fault read
    | ok lines =>
        dsimp only
        split
        · rename_i found
          exact .known nothing lines read found
        · rename_i fresh
          rcases appended : files.appendLine f.settings.localRules line.trim with
            ⟨after, failure | _⟩
          · exact .unwritten nothing lines read fresh after failure appended
          · have whole := Addition.stored nothing lines read fresh after appended
            have same := remember_active f line.trim
            rw [withLine, Rule.inLine?] at whole
            rcases made : Rule.ofLine line.trim with error | _ | rule
            · simpa [made, ← same] using whole
            · simpa [made, ← same] using whole
            · simpa [made, same] using whole

theorem stored_of_added (f : LiveFilter) (files : FileTree) (line : Text)
    (added : (f.addRule files line).result = .ok true) :
    line.trim ≠ [] ∧ (Rule.inLine? line.trim).isSome = true ∧
      ∃ after, files.appendLine f.settings.localRules line.trim = (after, .ok ()) ∧
        f.addRule files line = ⟨f.withLine line.trim, after, .ok true⟩ := by
  have outcome := add_rule_step f files line
  generalize f.addRule files line = edited at outcome added ⊢
  cases outcome with
  | blank => cases added
  | unread => cases added
  | known => cases added
  | unwritten => cases added
  | stored some_line lines read fresh after appended =>
      have found := Except.ok.inj added
      exact ⟨some_line, found, after, appended, by rw [found]⟩

theorem add_rule_of_appended (f : LiveFilter) (files after : FileTree) (line : Text)
    (some_line : line.trim ≠ []) (lines : List Text)
    (read : files.readLinesIfAny f.settings.localRules = .ok lines)
    (fresh : ¬ (lines.any fun other => Text.trim other == line.trim) = true)
    (appended : files.appendLine f.settings.localRules line.trim = (after, .ok ())) :
    f.addRule files line =
      ⟨f.withLine line.trim, after, .ok (Rule.inLine? line.trim).isSome⟩ := by
  have outcome := add_rule_step f files line
  generalize f.addRule files line = edited at outcome ⊢
  cases outcome with
  | blank nothing => exact absurd nothing some_line
  | unread _ fault failed => cases read.symm.trans failed
  | known _ stored read' found =>
      obtain rfl := Except.ok.inj (read.symm.trans read')
      exact absurd found fresh
  | unwritten _ stored read' _ after' failure failed =>
      cases (Prod.mk.inj (appended.symm.trans failed)).2
  | stored _ stored read' _ after' appended' =>
      obtain rfl := (Prod.mk.inj (appended.symm.trans appended')).1
      rfl

/-- Adding a line changes nothing, or no more than the directory, or it stores the line. -/
theorem add_rule_cases (f : LiveFilter) (files : FileTree) (line : Text) :
    ((f.addRule files line).filter = f ∧ (f.addRule files line).files = files) ∨
      ∃ stored, files.readLinesIfAny f.settings.localRules = .ok stored ∧
        (((f.addRule files line).filter = f ∧
            (f.addRule files line).files = (files.createParent f.settings.localRules).1) ∨
          ∃ place,
            (files.createParent f.settings.localRules).1.locate f.settings.localRules = .ok place ∧
            (files.createParent f.settings.localRules).1.entryAt? place ≠ some .directory ∧
            (f.addRule files line).filter = f.withLine line.trim ∧
            (f.addRule files line).files =
              (files.createParent f.settings.localRules).1.put place (.file
                ((files.createParent f.settings.localRules).1.contentAt place ++
                  Utf8.encode (Text.unlines [line.trim])))) := by
  have outcome := add_rule_step f files line
  generalize f.addRule files line = edited at outcome ⊢
  cases outcome with
  | blank => exact Or.inl ⟨rfl, rfl⟩
  | unread => exact Or.inl ⟨rfl, rfl⟩
  | known => exact Or.inl ⟨rfl, rfl⟩
  | unwritten _ stored read _ after failure failed =>
      refine Or.inr ⟨stored, read, ?_⟩
      rcases files.append_line_cases f.settings.localRules line.trim with
        ⟨other, cause⟩ | ⟨place, led, free, appended⟩
      · rw [← (Prod.mk.inj (cause.symm.trans failed)).1]
        exact Or.inl ⟨rfl, rfl⟩
      · cases (Prod.mk.inj (appended.symm.trans failed)).2
  | stored _ stored read _ after appended =>
      refine Or.inr ⟨stored, read, ?_⟩
      rcases files.append_line_cases f.settings.localRules line.trim with
        ⟨other, cause⟩ | ⟨place, led, free, written⟩
      · cases (Prod.mk.inj (cause.symm.trans appended)).2
      · rw [← (Prod.mk.inj (written.symm.trans appended)).1]
        exact Or.inr ⟨place, led, free, rfl, rfl⟩

/-- What removing a line can come to. -/
inductive Removal (f : LiveFilter) (files : FileTree) (line : Text) : Edited → Prop
  | blank (nothing : line.trim = []) : Removal f files line ⟨f, files, .ok false⟩
  | unread (some_line : line.trim ≠ []) (fault : FileFault)
      (read : files.readLinesIfAny f.settings.localRules = .error fault) :
      Removal f files line ⟨f, files, .error (.file f.settings.localRules fault)⟩
  | absent (some_line : line.trim ≠ []) (lines : List Text)
      (read : files.readLinesIfAny f.settings.localRules = .ok lines)
      (all : (lines.filter fun other => Text.trim other != line.trim).length = lines.length) :
      Removal f files line ⟨f, files, .ok false⟩
  | unwritten (some_line : line.trim ≠ []) (lines : List Text)
      (read : files.readLinesIfAny f.settings.localRules = .ok lines)
      (fewer : (lines.filter fun other => Text.trim other != line.trim).length ≠ lines.length)
      (fault : FileFault)
      (failed : files.write f.settings.localRules (Utf8.encode (fileText
        (lines.filter fun other => Text.trim other != line.trim))) = .error fault) :
      Removal f files line ⟨f, files, .error (.file f.settings.localRules fault)⟩
  | rewritten (some_line : line.trim ≠ []) (lines : List Text)
      (read : files.readLinesIfAny f.settings.localRules = .ok lines)
      (fewer : (lines.filter fun other => Text.trim other != line.trim).length ≠ lines.length)
      (after : FileTree)
      (written : files.write f.settings.localRules (Utf8.encode (fileText
        (lines.filter fun other => Text.trim other != line.trim))) = .ok after) :
      Removal f files line ⟨(f.reload after).1, after, (f.reload after).2.map fun _ => true⟩

theorem remove_rule_step (f : LiveFilter) (files : FileTree) (line : Text) :
    Removal f files line (f.removeRule files line) := by
  rw [removeRule]
  dsimp only
  by_cases nothing : line.trim = []
  · rw [if_pos (List.isEmpty_iff.mpr nothing)]
    exact .blank nothing
  · rw [if_neg (mt List.isEmpty_iff.mp nothing)]
    cases read : files.readLinesIfAny f.settings.localRules with
    | error fault => exact .unread nothing fault read
    | ok lines =>
        dsimp only
        split
        · rename_i all
          exact .absent nothing lines read all
        · rename_i fewer
          split
          · rename_i fault failed
            exact .unwritten nothing lines read fewer fault failed
          · rename_i after written
            exact .rewritten nothing lines read fewer after written

/-- Removing a line changes nothing, or the file is written and the filter reloaded. -/
theorem remove_rule_cases (f : LiveFilter) (files : FileTree) (line : Text) :
    ((f.removeRule files line).filter = f ∧ (f.removeRule files line).files = files) ∨
      ∃ kept after,
        files.write f.settings.localRules (Utf8.encode (fileText kept)) = .ok after ∧
        (f.removeRule files line).filter = (f.reload after).1 ∧
        (f.removeRule files line).files = after := by
  have outcome := remove_rule_step f files line
  generalize f.removeRule files line = edited at outcome ⊢
  cases outcome with
  | blank => exact Or.inl ⟨rfl, rfl⟩
  | unread => exact Or.inl ⟨rfl, rfl⟩
  | absent => exact Or.inl ⟨rfl, rfl⟩
  | unwritten => exact Or.inl ⟨rfl, rfl⟩
  | rewritten _ _ _ _ after written => exact Or.inr ⟨_, after, written, rfl, rfl⟩

section Coherent

variable (s : Settings) (start : FileTree)

theorem lists_congr (apart : KeptApart s start) (files others : FileTree)
    (here : start.Between s.localRules files) (there : start.Between s.localRules others)
    (cache kept : LineCache)
    (entries : ∀ list ∈ s.enabledSubscriptions,
      Table.get? cache list.name = Table.get? kept list.name) :
    (s.enabledSubscriptions.map fun list => cache.contribution files (listSource list)) =
      s.enabledSubscriptions.map fun list => kept.contribution others (listSource list) := by
  refine List.map_congr_left fun list member => ?_
  refine LineCache.contribution_congr files others cache kept (listSource list) ?_
    (entries list member)
  intro lines
  have concealed := apart.concealed list.path (List.mem_cons_of_mem _ (List.mem_map_of_mem member))
  have elsewhere := apart.elsewhere list member
  simp only [list_read_lines,
    FileTree.read_between start s.localRules files here list.path elsewhere concealed,
    FileTree.read_between start s.localRules others there list.path elsewhere concealed]

theorem coherent_of_reload (names : s.NamesApart) (f : LiveFilter) (files : FileTree)
    (settings : f.settings = s) (between : start.Between s.localRules files)
    (counted : f.counted files ≠ [])
    (ended : ∀ bytes, files.read s.localRules = .ok bytes → EndsLine bytes)
    (missing : files.read s.localRules = .error .notFound →
      ∀ bytes, (files.createParent s.localRules).1.read s.localRules ≠ .ok bytes) :
    Coherent s start (f.reload files).1 files := by
  subst settings
  have same := reload_counted f files names
  refine ⟨reload_settings f files, between, same ▸ counted, ?_, ended, ?_⟩
  · rw [same]
    exact reload_active f files names counted
  · intro absent
    refine ⟨?_, missing absent⟩
    have configured : localSource f.settings ∈ configuredSources f.settings := by
      simp [configuredSources, localSource]
    have entry := reload_entry f files names (localSource f.settings) configured
    have nothing : files.readLinesIfAny f.settings.localRules = .ok [] :=
      (files.read_lines_if_any_ok _ _).mpr (Or.inr ⟨absent, rfl⟩)
    rw [local_contribution f.cache files f.settings [] nothing] at entry
    exact entry

variable (apart : KeptApart s start) (f : LiveFilter) (files : FileTree)
  (coherent : Coherent s start f files) (stored : List Text)
  (read : files.readLinesIfAny s.localRules = .ok stored)

include coherent

theorem coherent_rewritten (names : s.NamesApart) (kept : List Text) (after : FileTree)
    (written : files.write s.localRules (Utf8.encode (fileText kept)) = .ok after) :
    Coherent s start (f.reload after).1 after := by
  obtain ⟨place, led, free, rfl⟩ := files.write_ok after s.localRules _ written
  have read := files.read_put place (Utf8.encode (fileText kept)) free s.localRules led
  have between := FileTree.between_put start s.localRules files coherent.between place
    (Utf8.encode (fileText kept)) led free
  generalize files.put place (.file (Utf8.encode (fileText kept))) = after at *
  have lines := (after.read_lines_if_any_ok s.localRules _).mpr (Or.inl ⟨_, read, rfl⟩)
  have counted : f.counted after ≠ [] := by
    rw [counted_eq, coherent.settings, local_contribution f.cache after s _ lines]
    simp
  apply coherent_of_reload s start names f after coherent.settings between counted
  · intro bytes found
    obtain rfl := Except.ok.inj (read.symm.trans found)
    exact ends_line_file_text kept
  · intro absent
    rw [read] at absent
    cases absent

include read

theorem made_read :
    (∃ bytes, files.read s.localRules = .ok bytes ∧ stored = linesOf bytes ∧
        (files.createParent s.localRules).1.read s.localRules = .ok bytes) ∨
      files.read s.localRules = .error .notFound ∧ stored = [] ∧
        Table.get? f.cache localName = some [] ∧
          ∀ bytes, (files.createParent s.localRules).1.read s.localRules ≠ .ok bytes := by
  have keeps := FileTree.create_parent_keeps files s.localRules
  rcases (files.read_lines_if_any_ok _ stored).mp read with ⟨bytes, found, same⟩ | ⟨absent, none⟩
  · exact Or.inl ⟨bytes, found, same, FileTree.read_keeps files _ keeps _ bytes found⟩
  · exact Or.inr ⟨absent, none, coherent.missing absent⟩

include apart

theorem coherent_made : Coherent s start f (files.createParent s.localRules).1 := by
  have between := FileTree.between_make start s.localRules files coherent.between
  have lines := made_read s start f files coherent stored read
  have counts : f.cache.contribution (files.createParent s.localRules).1 (localSource s) =
      some stored := by
    rcases lines with ⟨bytes, -, same, found⟩ | ⟨-, rfl, entry, hidden⟩
    · refine local_contribution f.cache _ s stored ?_
      exact (FileTree.read_lines_if_any_ok _ _ stored).mpr (Or.inl ⟨bytes, found, same⟩)
    · exact hidden_contribution f.cache _ s entry hidden
  have same : f.counted (files.createParent s.localRules).1 = f.counted files := by
    rw [counted_eq, counted_eq, coherent.settings, counts,
      local_contribution f.cache files s stored read,
      lists_congr s start apart _ files between coherent.between f.cache f.cache fun _ _ => rfl]
  refine ⟨coherent.settings, between, same ▸ coherent.counted, same ▸ coherent.active, ?_, ?_⟩
  · intro bytes found
    rcases lines with ⟨old, before, -, again⟩ | ⟨-, -, -, hidden⟩
    · obtain rfl := Except.ok.inj (found.symm.trans again)
      exact coherent.ended bytes before
    · exact absurd found (hidden bytes)
  · intro absent
    rcases lines with ⟨old, -, -, again⟩ | ⟨-, -, entry, hidden⟩
    · rw [absent] at again
      cases again
    · refine ⟨entry, ?_⟩
      rw [FileTree.create_parent_again]
      exact hidden

theorem made_content (place : Place)
    (led : (files.createParent s.localRules).1.locate s.localRules = .ok place) :
    stored = linesOf ((files.createParent s.localRules).1.contentAt place) ∧
      EndsLine ((files.createParent s.localRules).1.contentAt place) := by
  have ready := coherent_made s start apart f files coherent stored read
  have lines := made_read s start f files coherent stored read
  generalize (files.createParent s.localRules).1 = made at *
  rcases made.content_at_cases s.localRules place led with found | ⟨empty, unread⟩
  · rcases lines with ⟨bytes, -, same, again⟩ | ⟨-, -, -, hidden⟩
    · rw [Except.ok.inj (again.symm.trans found)] at same
      exact ⟨same, ready.ended _ found⟩
    · exact absurd found (hidden _)
  · rw [empty]
    rcases lines with ⟨bytes, -, -, found⟩ | ⟨-, rfl, -, -⟩
    · exact absurd found (unread bytes)
    · exact ⟨rfl, Or.inl rfl⟩

/-- A line that is stored counts as one more line, and its rule is added to the active ones. -/
theorem coherent_appended (names : s.NamesApart) (line : Text) (single : '\n' ∉ line)
    (trimmed : Text.IsTrimmed line) (place : Place)
    (led : (files.createParent s.localRules).1.locate s.localRules = .ok place)
    (free : (files.createParent s.localRules).1.entryAt? place ≠ some .directory) :
    Coherent s start (f.withLine line)
      ((files.createParent s.localRules).1.put place (.file
        ((files.createParent s.localRules).1.contentAt place ++
          Utf8.encode (Text.unlines [line])))) := by
  have ready := coherent_made s start apart f files coherent stored read
  have content := made_content s start apart f files coherent stored read place led
  -- how the directory came about makes no difference from here on
  generalize (files.createParent s.localRules).1 = made at *
  have written := made.read_put place (made.contentAt place ++ Utf8.encode (Text.unlines [line]))
    free s.localRules led
  have between := FileTree.between_put start s.localRules made ready.between place
    (made.contentAt place ++ Utf8.encode (Text.unlines [line])) led free
  generalize made.put place (.file (made.contentAt place ++ Utf8.encode (Text.unlines [line]))) =
    after at *
  have settings : (f.withLine line).settings = s := by
    rw [withLine, remember_settings, coherent.settings]
  have counts : (f.remember line).cache.contribution after (localSource s) =
      some (stored ++ [line]) := by
    have appended := lines_of_append _ line content.2 single trimmed
    rw [← content.1] at appended
    apply local_contribution
    exact (after.read_lines_if_any_ok _ _).mpr (Or.inl ⟨_, written, appended.symm⟩)
  have others := lists_congr s start apart after files between coherent.between
    (f.remember line).cache f.cache fun list member =>
      remember_other f line list.name (names.reserved list member)
  have before := counted_eq f files
  have now := counted_eq (f.withLine line) after
  rw [coherent.settings, local_contribution f.cache files s stored read] at before
  rw [settings, show (f.withLine line).cache = (f.remember line).cache from rfl, counts,
    others] at now
  have flat : ((f.withLine line).counted after).flatten = (f.counted files).flatten ++ [line] := by
    rw [now, before]
    simp
  refine ⟨settings, between, by simp [now], ?_, ?_, ?_⟩
  · rw [flat, Builder.addLines, List.foldl_append]
    change (Rule.inLine? line).elim f.active f.active.insert =
      ((Builder.addLines {} (f.counted files).flatten).addLine line).set
    rw [Builder.add_line_set, ← coherent.active]
  · intro bytes found
    obtain rfl := Except.ok.inj (written.symm.trans found)
    rw [unlines_single, encode_line]
    exact Or.inr (by simp)
  · intro absent
    rw [written] at absent
    cases absent

end Coherent

variable (s : Settings) (start : FileTree)

theorem coherent_start (names : s.NamesApart) (apart : KeptApart s start) (f₀ f : LiveFilter)
    (settings : f₀.settings = s) (tally : Tally) (reloaded : f₀.reload start = (f, .ok tally))
    (ended : ∀ bytes, start.read s.localRules = .ok bytes → EndsLine bytes) :
    Coherent s start f start := by
  have counted : f₀.counted start ≠ [] := by
    rw [← reload_ok_iff f₀ start (settings.symm ▸ names), reloaded]
    exact ⟨tally, rfl⟩
  have coherent := coherent_of_reload s start names f₀ start settings
    (FileTree.between_refl start s.localRules) counted ended
  rw [reloaded] at coherent
  refine coherent fun absent bytes revealed => ?_
  have found := apart.concealed s.localRules List.mem_cons_self bytes revealed
  rw [absent] at found
  cases found

theorem coherent_edit (names : s.NamesApart) (apart : KeptApart s start) (f : LiveFilter)
    (files : FileTree) (e : Edit) (single : '\n' ∉ e.line) (coherent : Coherent s start f files) :
    Coherent s start (f.edit files e).1 (f.edit files e).2 := by
  have settings := coherent.settings
  cases e with
  | add line =>
      have within : '\n' ∉ line.trim := fun member => single (line.trim_within.subset member)
      rcases add_rule_cases f files line with
        same | ⟨stored, read, made | ⟨place, led, free, after⟩⟩
      · rw [edit, same.1, same.2]
        exact coherent
      · rw [edit, made.1, made.2]
        rw [settings] at read ⊢
        exact coherent_made s start apart f files coherent stored read
      · rw [edit, after.1, after.2]
        rw [settings] at read led free ⊢
        exact coherent_appended s start apart f files coherent stored read names line.trim within
          (Text.trim_trimmed line) place led free
  | remove line =>
      rcases remove_rule_cases f files line with same | ⟨kept, after, written, filter, tree⟩
      · rw [edit, same.1, same.2]
        exact coherent
      · rw [edit, filter, tree]
        rw [settings] at written
        exact coherent_rewritten s start f files coherent names kept after written
  | reload =>
      exact coherent_of_reload s start names f files settings coherent.between coherent.counted
        coherent.ended fun absent => (coherent.missing absent).2

theorem coherent_run (names : s.NamesApart) (apart : KeptApart s start) (edits : List Edit)
    (single : ∀ e ∈ edits, '\n' ∉ e.line) (f : LiveFilter) (files : FileTree)
    (coherent : Coherent s start f files) :
    Coherent s start (f.run files edits).1 (f.run files edits).2 := by
  induction edits generalizing f files with
  | nil => exact coherent
  | cons e edits ih =>
      have next := coherent_edit s start names apart f files e (single e List.mem_cons_self)
        coherent
      exact ih (fun other member => single other (List.mem_cons_of_mem e member)) _ _ next

def Agrees (f : LiveFilter) (files : FileTree) : Prop :=
  (∃ tally, (f.reload files).2 = .ok tally) ∧ (f.reload files).1.active = f.active

theorem agrees_of_coherent (names : s.NamesApart) (f : LiveFilter) (files : FileTree)
    (coherent : Coherent s start f files) : Agrees f files := by
  have named := coherent.settings.symm ▸ names
  constructor
  · exact (reload_ok_iff f files named).mpr coherent.counted
  · calc (f.reload files).1.active
      _ = (Builder.addLines {} (f.counted files).flatten).set :=
          reload_active f files named coherent.counted
      _ = f.active := coherent.active.symm

/-- Once a reload has succeeded, rules that are added and removed stay in step with the files. -/
theorem run_agrees_with_reload (f₀ f : LiveFilter) (start : FileTree) (tally : Tally)
    (reloaded : f₀.reload start = (f, .ok tally)) (names : f₀.settings.NamesApart)
    (apart : KeptApart f₀.settings start)
    (ended : ∀ bytes, start.read f₀.settings.localRules = .ok bytes → EndsLine bytes)
    (edits : List Edit) (single : ∀ e ∈ edits, '\n' ∉ e.line) :
    Agrees (f.run start edits).1 (f.run start edits).2 := by
  have begun := coherent_start f₀.settings start names apart f₀ f rfl tally reloaded ended
  have coherent := coherent_run f₀.settings start names apart edits single f start begun
  exact agrees_of_coherent f₀.settings start names _ _ coherent

def oneFile (directory name : Text) (content : Text) : FileTree :=
  (FileTree.emptyAt [directory]).put [name, directory] (.file (Utf8.encode content))

def customDirectory : Settings where
  localRules := "/custom/rules".toList
  subscriptions := [{ name := "easylist".toList, path := "/lists/easylist".toList }]

theorem custom_directory_apart : KeptApart customDirectory
    (oneFile "lists".toList "easylist".toList "##.ad\n".toList) := by
  constructor
  · intro list member place led same
    obtain rfl := List.mem_singleton.mp member
    have here : place = ["easylist".toList, "lists".toList] := Except.ok.inj (led.symm.trans rfl)
    have there : place = ["rules".toList, "custom".toList] := Except.ok.inj (same.symm.trans rfl)
    rw [here] at there
    exact absurd there (by decide)
  · intro path member bytes read
    rcases List.mem_pair.mp member with rfl | rfl
    · cases read
    · exact read

/-- The directory of the user's rules is made by the first of these edits. -/
theorem custom_directory_agrees :
    ∃ f tally, reload { settings := customDirectory }
        (oneFile "lists".toList "easylist".toList "##.ad\n".toList) = (f, .ok tally) ∧
      Agrees
        (f.run (oneFile "lists".toList "easylist".toList "##.ad\n".toList)
          [.add "##.banner".toList, .add "/[/".toList, .remove "##.banner".toList, .reload]).1
        (f.run (oneFile "lists".toList "easylist".toList "##.ad\n".toList)
          [.add "##.banner".toList, .add "/[/".toList, .remove "##.banner".toList, .reload]).2 := by
  refine ⟨_, _, rfl, run_agrees_with_reload { settings := customDirectory } _ _ _ rfl ?_
    custom_directory_apart ?_ _ ?_⟩
  · exact ⟨by decide, by decide⟩
  · intro bytes read
    cases read
  · decide

def sharedFile : Settings where
  localRules := "/lists/rules".toList
  subscriptions := [{ name := "easylist".toList, path := "/lists/rules".toList }]

def detour : Settings where
  localRules := "/lists/new/../rules".toList

/-- Where the file is a list too, or turns up when a directory is made for it, an added rule and a
reload do not give the same rules. -/
theorem edits_can_disagree :
    (sharedFile.NamesApart ∧
      (∀ bytes, (oneFile "lists".toList "rules".toList []).read sharedFile.localRules = .ok bytes →
        EndsLine bytes) ∧
      ∃ f tally, reload { settings := sharedFile } (oneFile "lists".toList "rules".toList []) =
          (f, .ok tally) ∧
        ¬ Agrees (f.run (oneFile "lists".toList "rules".toList []) [.add "##.ad".toList]).1
          (f.run (oneFile "lists".toList "rules".toList []) [.add "##.ad".toList]).2) ∧
    detour.NamesApart ∧
      (∀ bytes, (oneFile "lists".toList "rules".toList "##.old\n".toList).read detour.localRules =
        .ok bytes → EndsLine bytes) ∧
      ∃ f tally, reload { settings := detour }
          (oneFile "lists".toList "rules".toList "##.old\n".toList) = (f, .ok tally) ∧
        ¬ Agrees
          (f.run (oneFile "lists".toList "rules".toList "##.old\n".toList) [.add "##.ad".toList]).1
          (f.run (oneFile "lists".toList "rules".toList "##.old\n".toList)
            [.add "##.ad".toList]).2 := by
  refine ⟨⟨⟨by decide, by decide⟩, ?_, _, _, rfl, ?_⟩, ⟨by decide, by decide⟩, ?_, _, _, rfl, ?_⟩
  · intro bytes read
    exact Or.inl (Except.ok.inj read).symm
  · rintro ⟨-, same⟩
    exact absurd (congrArg (·.hidden.generic.size) same) (by decide)
  · intro bytes read
    cases read
  · rintro ⟨-, same⟩
    exact absurd (congrArg (·.hidden.generic.size) same) (by decide)

end LiveFilter

end ContentFilter
