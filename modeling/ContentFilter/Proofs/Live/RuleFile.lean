import ContentFilter.Proofs.Files.Parents
import ContentFilter.Proofs.Live.History
/-!
The file of the user's rules as a list without repetitions. Several services may share the file:
each of them reads it before an edit and writes it whole, or a line at its end, so that the answers
of all of them follow one list of lines, whatever their own rules are and whatever happens to other
files.
-/
namespace ContentFilter

namespace FileTree

/-- A file that is missing and can be written: its directory can be made, and then its path leads to
a place where there is nothing. -/
structure Creatable (t : FileTree) (path : Text) : Prop where
  absent : t.read path = .error .notFound
  made : (t.createParent path).2 = .ok ()
  vacant : ∃ place, (t.createParent path).1.locateFile path = .ok place ∧
    (t.createParent path).1.entryAt? place = none

/-- A file has this content, where a file that can be created counts as empty. -/
def Holds (t : FileTree) (path : Text) (content : List UInt8) : Prop :=
  t.read path = .ok content ∨ content = [] ∧ t.Creatable path

section Holds

variable (t : FileTree) (path : Text) (content : List UInt8) (holds : t.Holds path content)

include holds

theorem lines_of_holds : t.readLinesIfAny path = .ok (linesOf content) := by
  apply (read_lines_if_any_ok t path _).mpr
  rcases holds with read | ⟨rfl, creatable⟩
  · exact Or.inl ⟨content, read, rfl⟩
  · exact Or.inr ⟨creatable.absent, rfl⟩

theorem append_line_holds (line : Text) :
    ∃ after, t.appendLine path line = (after, .ok ()) ∧
      after.read path = .ok (content ++ Utf8.encode (Text.unlines [line])) := by
  obtain ⟨made, place, parent, led, old⟩ : ∃ made place, t.createParent path = (made, .ok ()) ∧
      made.locateFile path = .ok place ∧ made.contentAt place = content := by
    rcases holds with read | ⟨rfl, creatable⟩
    · obtain ⟨place, led, present⟩ := locate_file_of_read t path content read
      have parent := create_parent_found t path place (locate_file_ok t path place led).1
      exact ⟨t, place, parent, led, by rw [contentAt, present]⟩
    · obtain ⟨place, led, vacant⟩ := creatable.vacant
      exact ⟨_, place, Prod.ext rfl creatable.made, led, by rw [contentAt, vacant]⟩
  obtain ⟨found, free⟩ := locate_file_ok made path place led
  refine ⟨made.put place (.file (content ++ Utf8.encode (Text.unlines [line]))), ?_, ?_⟩
  · rw [appendLine, parent]
    simp only [append, led, old]
  · exact made.read_put place _ free path found

end Holds

theorem write_of_lines (t : FileTree) (path : Text) (lines : List Text) (content : List UInt8)
    (read : t.readLinesIfAny path = .ok lines) (some_lines : lines ≠ []) :
    ∃ after, t.write path content = .ok after ∧ after.read path = .ok content := by
  rcases (t.read_lines_if_any_ok path lines).mp read with ⟨bytes, present, -⟩ | ⟨-, none⟩
  · obtain ⟨place, led, -⟩ := locate_file_of_read t path bytes present
    obtain ⟨found, free⟩ := locate_file_ok t path place led
    exact ⟨_, by rw [write, led], t.read_put place content free path found⟩
  · exact absurd none some_lines

end FileTree

theorem LineCache.gather_last (files : FileTree) (cache : LineCache) (sources : List Source)
    (source : Source) (lines : List Text) (read : source.readLines files = .ok lines) :
    (cache.gather files (sources ++ [source])).2 =
      (cache.gather files sources).2 ++ [some lines] := by
  induction sources generalizing cache with
  | nil => simp only [List.nil_append, gather, read]
  | cons first rest ih =>
      rw [List.cons_append, gather, gather]
      cases first.readLines files with
      | ok others => exact congrArg (some others :: ·) (ih _)
      | error failure => exact congrArg (Table.get? cache first.name :: ·) (ih cache)

namespace LiveFilter

def linesAfter (lines : List Text) : Edit → List Text
  | .add line =>
    if line.trim.isEmpty || lines.contains line.trim then lines else lines ++ [line.trim]
  | .remove line => lines.filter (· ≠ line.trim)
  | .reload => lines

/-- Lines that are stored: each is trimmed, not empty and a single one, and none is there twice. -/
structure Storable (lines : List Text) : Prop where
  nonempty : [] ∉ lines
  trimmed : ∀ line ∈ lines, Text.IsTrimmed line
  single : ∀ line ∈ lines, '\n' ∉ line
  distinct : lines.Nodup

theorem storable_nil : Storable [] :=
  ⟨List.not_mem_nil, by simp, by simp, List.nodup_nil⟩

theorem storable_after (lines : List Text) (storable : Storable lines) (e : Edit)
    (single : '\n' ∉ e.line) : Storable (linesAfter lines e) := by
  cases e with
  | add line =>
      rw [linesAfter]
      split
      · exact storable
      · rename_i fresh
        obtain ⟨some_line, absent⟩ : line.trim ≠ [] ∧ line.trim ∉ lines := by simpa using fresh
        have within : '\n' ∉ line.trim := fun member => single (line.trim_within.subset member)
        constructor
        · simpa using ⟨storable.nonempty, some_line⟩
        · rw [List.forall_mem_append, List.forall_mem_singleton]
          exact ⟨storable.trimmed, line.trim_trimmed⟩
        · rw [List.forall_mem_append, List.forall_mem_singleton]
          exact ⟨storable.single, within⟩
        · rw [List.nodup_append]
          refine ⟨storable.distinct, by simp, ?_⟩
          intro other stored
          rw [List.forall_mem_singleton]
          rintro rfl
          exact absent stored
  | remove line =>
      have fewer : lines.filter (· ≠ line.trim) ⊆ lines := List.filter_subset_self lines
      exact ⟨fun member => storable.nonempty (fewer member),
        fun other member => storable.trimmed other (fewer member),
        fun other member => storable.single other (fewer member),
        storable.distinct.filter _⟩
  | reload => exact storable

theorem lines_of_storable (lines : List Text) (storable : Storable lines) :
    linesOf (Utf8.encode (Text.unlines lines)) = lines := by
  rw [linesOf, Utf8.decodeLossy_encode]
  exact Text.lines_unlines lines fun line member =>
    ⟨storable.single line member, storable.trimmed line member⟩

theorem stored_cases (lines : List Text) (storable : Storable lines) (files : FileTree)
    (path : Text) (holds : files.Holds path (Utf8.encode (Text.unlines lines))) :
    files.read path = .ok (Utf8.encode (Text.unlines lines)) ∨
      lines = [] ∧ files.Creatable path := by
  rcases holds with read | ⟨nothing, creatable⟩
  · exact Or.inl read
  · refine Or.inr ⟨?_, creatable⟩
    rw [← lines_of_storable lines storable, nothing]
    rfl

theorem any_trim_eq (lines : List Text) (storable : Storable lines) (line : Text) :
    (lines.any fun other => Text.trim other == line) = true ↔ line ∈ lines := by
  rw [List.any_eq_true]
  constructor
  · intro found
    obtain ⟨other, member, same⟩ := found
    rw [Text.trim_eq other (storable.trimmed other member), beq_iff_eq] at same
    rwa [← same]
  · intro member
    exact ⟨line, member, by rw [Text.trim_eq line (storable.trimmed line member), beq_self_eq_true]⟩

theorem filter_trim_ne (lines : List Text) (storable : Storable lines) (line : Text) :
    (lines.filter fun other => Text.trim other != line) = lines.filter (· ≠ line) := by
  apply List.filter_congr
  intro other member
  rw [Text.trim_eq other (storable.trimmed other member), bne, decide_not, Bool.beq_eq_decide_eq]

/-- A reload succeeds while the file of the user's rules can be read, and gives its rules after
those of all other lists. -/
theorem reload_holds_own (f : LiveFilter) (files : FileTree) (lines : List Text)
    (read : files.readLinesIfAny f.settings.localRules = .ok lines) :
    ∃ tally others, (f.reload files).2 = .ok tally ∧
      (f.reload files).1.active.Holds (others ++ lines.filterMap Rule.inLine?) := by
  obtain ⟨front, gathered⟩ : ∃ front,
      (f.cache.gather files (configuredSources f.settings)).2 = front ++ [some lines] :=
    ⟨_, LineCache.gather_last files f.cache (f.settings.enabledSubscriptions.map listSource)
      (localSource f.settings) lines (local_read_lines files f.settings lines read)⟩
  have some_read : ((front ++ [some lines]).filterMap id).isEmpty = false := by simp
  have joined : ((front ++ [some lines]).filterMap id).flatten =
      (front.filterMap id).flatten ++ lines := by simp
  have built := Builder.holds_add_lines ((front.filterMap id).flatten ++ lines)
  rw [List.filterMap_append] at built
  rw [reload, reloadFrom]
  dsimp only
  rw [gathered, some_read, Bool.and_false, if_neg Bool.false_ne_true, joined]
  exact ⟨_, _, rfl, built⟩

theorem reload_ok_of_read (f : LiveFilter) (files : FileTree) (lines : List Text)
    (read : files.readLinesIfAny f.settings.localRules = .ok lines) :
    ∃ tally, (f.reload files).2 = .ok tally := by
  obtain ⟨tally, _, succeeds, _⟩ := reload_holds_own f files lines read
  exact ⟨tally, succeeds⟩

theorem rewrite_reloads (f : LiveFilter) (files : FileTree) (lines : List Text)
    (content : List UInt8) (read : files.readLinesIfAny f.settings.localRules = .ok lines)
    (some_lines : lines ≠ []) :
    ∃ after, files.write f.settings.localRules content = .ok after ∧
      after.read f.settings.localRules = .ok content ∧
        ∃ tally, (f.reload after).2 = .ok tally := by
  obtain ⟨after, written, found⟩ := files.write_of_lines _ lines content read some_lines
  refine ⟨after, written, found, ?_⟩
  apply reload_ok_of_read f after
  exact (after.read_lines_if_any_ok _ _).mpr (Or.inl ⟨_, found, rfl⟩)

theorem ne_nil_of_fewer {lines : List Text} {p : Text → Bool}
    (fewer : (lines.filter p).length ≠ lines.length) : lines ≠ [] := by
  rintro rfl
  exact fewer rfl

theorem none_left_out_iff (lines : List Text) (line : Text) :
    (lines.filter fun other => Text.trim other != line).length = lines.length ↔
      ∀ other ∈ lines, other.trim ≠ line := by
  rw [List.length_filter_eq_length_iff]
  simp only [bne_iff_ne]

def HasLine (lines : List Text) (line : Text) : Prop :=
  line.trim ≠ [] ∧ ∃ other ∈ lines, other.trim = line.trim

theorem has_line_iff (lines : List Text) (storable : Storable lines) (line : Text) :
    HasLine lines line ↔ line.trim ∈ lines := by
  constructor
  · rintro ⟨-, other, member, same⟩
    rw [Text.trim_eq other (storable.trimmed other member)] at same
    exact same ▸ member
  · intro member
    refine ⟨?_, line.trim, member, line.trim_trim⟩
    intro blank
    exact storable.nonempty (blank ▸ member)

/-- The removal of a line from a file that can be read fails nowhere: if the file does not have the
line nothing happens, and if it does the file is written without it and the filter reloads. -/
theorem remove_rule_of_read (f : LiveFilter) (files : FileTree) (line : Text) (lines : List Text)
    (read : files.readLinesIfAny f.settings.localRules = .ok lines) :
    ¬ HasLine lines line ∧ f.removeRule files line = ⟨f, files, .ok false⟩ ∨
      HasLine lines line ∧ ∃ after,
        files.write f.settings.localRules (Utf8.encode (fileText
          (lines.filter fun other => Text.trim other != line.trim))) = .ok after ∧
        after.read f.settings.localRules = .ok (Utf8.encode (fileText
          (lines.filter fun other => Text.trim other != line.trim))) ∧
        f.removeRule files line = ⟨(f.reload after).1, after, .ok true⟩ := by
  have outcome := remove_rule_step f files line
  generalize f.removeRule files line = edited at outcome ⊢
  cases outcome with
  | blank nothing => exact Or.inl ⟨fun has => has.1 nothing, rfl⟩
  | unread _ fault failed => cases failed.symm.trans read
  | absent _ others same all =>
      obtain rfl := Except.ok.inj (same.symm.trans read)
      rw [none_left_out_iff] at all
      refine Or.inl ⟨?_, rfl⟩
      rintro ⟨-, other, member, found⟩
      exact all other member found
  | unwritten _ others same fewer fault failed =>
      obtain ⟨after, written, -⟩ := f.rewrite_reloads files others _ same (ne_nil_of_fewer fewer)
      cases written.symm.trans failed
  | rewritten some_line others same fewer after written =>
      obtain ⟨again, wrote, found, tally, reloaded⟩ :=
        f.rewrite_reloads files others _ same (ne_nil_of_fewer fewer)
      obtain rfl := Except.ok.inj (wrote.symm.trans written)
      obtain rfl := Except.ok.inj (same.symm.trans read)
      rw [Ne, none_left_out_iff] at fewer
      push Not at fewer
      refine Or.inr ⟨⟨some_line, fewer⟩, again, wrote, found, ?_⟩
      rw [reloaded]
      rfl

theorem rewritten_by_eq_some_iff (s : Settings) (files after : FileTree) (line : Text) :
    rewrittenBy? s files line = some after ↔
      ∃ lines, files.readLinesIfAny s.localRules = .ok lines ∧ HasLine lines line ∧
        files.write s.localRules (Utf8.encode (fileText
          (lines.filter fun other => Text.trim other != line.trim))) = .ok after := by
  rw [rewrittenBy?]
  by_cases nothing : line.trim = []
  · simp [HasLine, nothing]
  · cases read : files.readLinesIfAny s.localRules with
    | error fault => simp [nothing]
    | ok lines =>
        simp only [List.isEmpty_iff, nothing, if_false, none_left_out_iff, HasLine, Ne,
          not_false_eq_true, true_and, Except.ok.injEq, exists_eq_left']
        rw [Option.ite_none_left_eq_some]
        push Not
        refine and_congr_right' ?_
        cases files.write s.localRules _ <;> simp [Except.toOption]

section edits

variable (f : LiveFilter) (files : FileTree) (lines : List Text) (storable : Storable lines)
  (holds : files.Holds f.settings.localRules (Utf8.encode (Text.unlines lines))) (line : Text)

include storable holds

theorem add_rule_answers :
    (f.addRule files line).result = .ok (decide
        (line.trim ≠ [] ∧ line.trim ∉ lines ∧ (Rule.inLine? line.trim).isSome)) ∧
      (f.addRule files line).files.Holds f.settings.localRules
        (Utf8.encode (Text.unlines (linesAfter lines (.add line)))) := by
  have read := FileTree.lines_of_holds files _ _ holds
  rw [lines_of_storable lines storable] at read
  obtain ⟨after, appended, written⟩ := FileTree.append_line_holds files _ _ holds line.trim
  have together : Utf8.encode (Text.unlines lines) ++ Utf8.encode (Text.unlines [line.trim]) =
      Utf8.encode (Text.unlines (lines ++ [line.trim])) := by
    simp [Utf8.encode, Text.unlines]
  rw [together] at written
  have outcome := add_rule_step f files line
  generalize f.addRule files line = edited at outcome ⊢
  rw [linesAfter]
  cases outcome with
  | blank nothing => simpa [nothing] using holds
  | unread _ fault unread => cases unread.symm.trans read
  | known some_line others same found =>
      obtain rfl := Except.ok.inj (same.symm.trans read)
      have member := (any_trim_eq others storable line.trim).mp found
      simpa [member] using holds
  | unwritten _ _ _ _ _ failure failed =>
      cases (Prod.mk.inj (appended.symm.trans failed)).2
  | stored some_line others same fresh later stored =>
      obtain rfl := Except.ok.inj (same.symm.trans read)
      obtain rfl := (Prod.mk.inj (appended.symm.trans stored)).1
      have absent := mt (any_trim_eq others storable line.trim).mpr fresh
      have unlisted : (line.trim.isEmpty || others.contains line.trim) = false := by
        simp [some_line, absent]
      rw [unlisted, if_neg Bool.false_ne_true]
      exact ⟨by simp [some_line, absent], Or.inl written⟩

theorem remove_rule_answers :
    (f.removeRule files line).result = .ok (decide (line.trim ∈ lines)) ∧
      (f.removeRule files line).files.Holds f.settings.localRules
        (Utf8.encode (Text.unlines (linesAfter lines (.remove line)))) := by
  have read := FileTree.lines_of_holds files _ _ holds
  rw [lines_of_storable lines storable] at read
  have unchanged (absent : line.trim ∉ lines) : lines.filter (· ≠ line.trim) = lines := by
    rw [List.filter_eq_self]
    intro other stored
    exact decide_eq_true fun equal => absent (equal ▸ stored)
  have outcome := f.remove_rule_of_read files line lines read
  rw [has_line_iff lines storable, filter_trim_ne lines storable] at outcome
  rw [linesAfter]
  rcases outcome with ⟨absent, removed⟩ | ⟨present, after, -, found, removed⟩
  · rw [removed, unchanged absent, decide_eq_false absent]
    exact ⟨rfl, holds⟩
  · have text : fileText (lines.filter (· ≠ line.trim)) =
        Text.unlines (lines.filter (· ≠ line.trim)) := by
      rw [fileText, if_neg]
      intro single
      have blank : [] ∈ lines.filter (· ≠ line.trim) := single ▸ List.mem_cons_self
      exact storable.nonempty (List.mem_of_mem_filter blank)
    rw [text] at found
    rw [removed, decide_eq_true present]
    exact ⟨rfl, Or.inl found⟩

end edits

variable {ι : Type}

/-- Services and the files that they share. -/
structure Shared (ι : Type) where
  filters : ι → LiveFilter
  files : FileTree

/-- The file of the user's rules has these lines and no line twice, and every service answers by
them. -/
structure Lists (s : Settings) (lines : List Text) (state : Shared ι) : Prop where
  distinct : lines.Nodup
  written : state.files.read s.localRules = .ok (Utf8.encode (Text.unlines lines)) ∨
    lines = [] ∧ state.files.read s.localRules = .error .notFound
  adds : ∀ who line, ((state.filters who).addRule state.files line).result =
    .ok (decide (line.trim ≠ [] ∧ line.trim ∉ lines ∧ (Rule.inLine? line.trim).isSome))
  removes : ∀ who line, ((state.filters who).removeRule state.files line).result =
    .ok (decide (line.trim ∈ lines))

/-- What every state keeps to that services come to. -/
structure Keeps (s : Settings) (lines : List Text) (state : Shared ι) : Prop where
  settings : ∀ who, (state.filters who).settings = s
  storable : Storable lines
  holds : state.files.Holds s.localRules (Utf8.encode (Text.unlines lines))

theorem holds_for (s : Settings) (lines : List Text) (state : Shared ι)
    (keeps : Keeps s lines state) (who : ι) :
    state.files.Holds (state.filters who).settings.localRules
      (Utf8.encode (Text.unlines lines)) := by
  rw [keeps.settings who]
  exact keeps.holds

theorem lists_of_keeps (s : Settings) (lines : List Text) (state : Shared ι)
    (keeps : Keeps s lines state) : Lists s lines state := by
  refine ⟨keeps.storable.distinct, ?_, ?_, ?_⟩
  · rcases stored_cases lines keeps.storable state.files _ keeps.holds with read | missing
    · exact Or.inl read
    · exact Or.inr ⟨missing.1, missing.2.absent⟩
  · intro who line
    have holds := holds_for s lines state keeps who
    exact (add_rule_answers _ _ lines keeps.storable holds line).1
  · intro who line
    have holds := holds_for s lines state keeps who
    exact (remove_rule_answers _ _ lines keeps.storable holds line).1

variable [DecidableEq ι]

def Shared.edit (state : Shared ι) (who : ι) (e : Edit) : Shared ι where
  filters other :=
    if other = who then ((state.filters who).edit state.files e).1 else state.filters other
  files := ((state.filters who).edit state.files e).2

/-- A file is left as it is: what it has it keeps, and while it is missing it can be created. -/
structure LeftAlone (path : Text) (t s : FileTree) : Prop where
  read : ∀ content, t.read path = .ok content → s.read path = .ok content
  creatable : t.Creatable path → s.Creatable path

/-- What services can come to whose settings are `s`, and the lines that they then should have: they
make edits, and between these other files may change in any way. -/
inductive Reached (s : Settings) (first : Shared ι) : List Text → Shared ι → Prop
  | start : Reached s first [] first
  | edit {lines : List Text} {state : Shared ι} (before : Reached s first lines state) (who : ι)
      (e : Edit) (single : '\n' ∉ e.line) :
      Reached s first (linesAfter lines e) (state.edit who e)
  | outside {lines : List Text} {state : Shared ι} (before : Reached s first lines state)
      (files : FileTree) (untouched : LeftAlone s.localRules state.files files) :
      Reached s first lines { state with files }

theorem keeps_edit (s : Settings) (lines : List Text) (state : Shared ι)
    (keeps : Keeps s lines state) (who : ι) (e : Edit) (single : '\n' ∉ e.line) :
    Keeps s (linesAfter lines e) (state.edit who e) := by
  have own := keeps.settings who
  have holds := holds_for s lines state keeps who
  refine ⟨?_, storable_after lines keeps.storable e single, ?_⟩
  · intro other
    rw [Shared.edit]
    dsimp only
    split
    · have unchanged := step_settings (state.filters who) state.files (.edit e)
      exact unchanged.trans own
    · exact keeps.settings other
  · rw [← own]
    cases e with
    | add line => exact (add_rule_answers _ _ lines keeps.storable holds line).2
    | remove line => exact (remove_rule_answers _ _ lines keeps.storable holds line).2
    | reload => exact holds

theorem keeps_reached (s : Settings) (first : Shared ι)
    (settings : ∀ who, (first.filters who).settings = s)
    (creatable : first.files.Creatable s.localRules) (lines : List Text) (state : Shared ι)
    (reached : Reached s first lines state) : Keeps s lines state := by
  induction reached with
  | start => exact ⟨settings, storable_nil, Or.inr ⟨rfl, creatable⟩⟩
  | edit before who e single ih => exact keeps_edit s _ _ ih who e single
  | outside before files untouched ih =>
      refine ⟨ih.settings, ih.storable, ?_⟩
      exact ih.holds.imp (untouched.read _) (And.imp_right untouched.creatable)

/-- Services that begin with a file that can be created have in it, after any edits by any of them,
the lines that were added and not removed since. -/
theorem rule_file_lists_lines (s : Settings) (first : Shared ι)
    (settings : ∀ who, (first.filters who).settings = s)
    (creatable : first.files.Creatable s.localRules) (lines : List Text) (state : Shared ι)
    (reached : Reached s first lines state) : Lists s lines state := by
  have keeps := keeps_reached s first settings creatable lines state reached
  exact lists_of_keeps s lines state keeps

def newServices (ι : Type) (s : Settings) (files : FileTree) : Shared ι :=
  ⟨fun _ => { settings := s }, files⟩

/-- Two services add a line each, and the second one removes the line of the first. -/
theorem two_services_share_lines :
    Lists customDirectory ["/ads/".toList]
      ((((newServices Bool customDirectory (oneFile "lists".toList "easylist".toList [])).edit
        true (.add "##.banner\r".toList)).edit
        false (.add "/ads/".toList)).edit
        false (.remove " ##.banner".toList)) := by
  refine rule_file_lists_lines customDirectory
    (newServices Bool customDirectory (oneFile "lists".toList "easylist".toList []))
    (fun _ => rfl) ?_ _ _ ?_
  · exact ⟨rfl, rfl, ["rules".toList, "custom".toList], rfl, rfl⟩
  · exact .edit (.edit (.edit .start true (.add "##.banner\r".toList) (by decide))
      false (.add "/ads/".toList) (by decide)) false (.remove " ##.banner".toList) (by decide)

def slashed : Settings where
  localRules := "rules/".toList

def oldRules : FileTree := oneFile "lists".toList "rules".toList "##.old\n".toList

/-- Where the file is missing and a directory can be made for it, it may still not be possible to
create the file, or it turns up with lines that nobody added. -/
theorem missing_file_may_not_list :
    ((FileTree.emptyAt []).read slashed.localRules = .error .notFound ∧
      ((FileTree.emptyAt []).createParent slashed.localRules).2 = .ok () ∧
      ¬ Lists slashed [] (newServices Unit slashed (FileTree.emptyAt []))) ∧
    oldRules.read detour.localRules = .error .notFound ∧
      (oldRules.createParent detour.localRules).2 = .ok () ∧
      ∃ lines state, Reached detour (newServices Unit detour oldRules) lines state ∧
        ¬ Lists detour lines state := by
  refine ⟨⟨rfl, rfl, ?_⟩, rfl, rfl, _, _, .edit .start () (.add "##.ad".toList) (by decide), ?_⟩
  · intro lists
    exact absurd (lists.adds () "##.ad".toList) (by decide)
  · intro lists
    exact absurd lists.written (by decide)

end LiveFilter

end ContentFilter
