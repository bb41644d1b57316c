import ContentFilter.Proofs.Live.Removal
import ContentFilter.Proofs.Rule.Expressions
/-!
Rules that are added and taken back. What is added is stored as a text and found again by its
lines. A rule of a single line is among them, and when it is taken back nothing of it is left; one
whose text has a line feed within it is stored as several lines, none of which it is, and so it
cannot be taken back.
-/
namespace ContentFilter.LiveFilter

section lists

variable (s : Settings) (start : FileTree)

theorem subscribed_congr (apart : KeptApart s start) (files others : FileTree)
    (here : start.Between s.localRules files) (there : start.Between s.localRules others)
    (f g : LiveFilter) (first : f.settings = s) (second : g.settings = s)
    (entries : ∀ list ∈ s.enabledSubscriptions,
      Table.get? f.cache list.name = Table.get? g.cache list.name) :
    f.subscribedLines files = g.subscribedLines others := by
  rw [subscribedLines, subscribedLines, first, second,
    lists_congr s start apart files others here there f.cache g.cache entries]

end lists

section reload

variable (f : LiveFilter) (files : FileTree) (names : f.settings.NamesApart)

include names

theorem subscribed_reload : (f.reload files).1.subscribedLines files = f.subscribedLines files := by
  have same (list : Subscription) (member : list ∈ f.settings.enabledSubscriptions) :=
    contribution_reloaded f files names files (listSource list)
      (List.mem_append_left _ (List.mem_map_of_mem member)) fun _ => Iff.rfl
  rw [subscribedLines, reload_settings, List.map_congr_left same]
  rfl

theorem subscribed_reloads (n : Nat) :
    ((fun g : LiveFilter => (g.reload files).1)^[n] f).settings = f.settings ∧
      ((fun g : LiveFilter => (g.reload files).1)^[n] f).subscribedLines files =
        f.subscribedLines files := by
  induction n with
  | zero => exact ⟨rfl, rfl⟩
  | succ n ih =>
      obtain ⟨settings, lines⟩ := ih
      rw [Function.iterate_succ_apply']
      generalize (fun g : LiveFilter => (g.reload files).1)^[n] f = g at settings lines ⊢
      rw [reload_settings, subscribed_reload g files (settings.symm ▸ names)]
      exact ⟨settings, lines⟩

end reload

theorem lines_of_single (text : Text) (trimmed : Text.IsTrimmed text) (some_text : text ≠ []) :
    linesOf (Utf8.encode (Text.unlines [text])) = text.lines := by
  rw [linesOf, Utf8.decodeLossy_encode, unlines_single]
  exact Text.lines_end_last text some_text trimmed.2

/-- What there is once a first line was stored: the file has nothing else, the lists subscribed to
count with the same lines as before, and the rule of the line is active. -/
structure StoresFirst (start : FileTree) (before : LiveFilter) (text : Text) (after : Edited) :
    Prop where
  settings : after.filter.settings = before.settings
  between : start.Between before.settings.localRules after.files
  read : after.files.read before.settings.localRules = .ok (Utf8.encode (Text.unlines [text]))
  subscribed : after.filter.subscribedLines after.files = before.subscribedLines start
  active : after.filter.active = (Rule.inLine? text).elim before.active before.active.insert

section edits

variable (f : LiveFilter) (files : FileTree) (line : Text)

theorem add_first_line (names : f.settings.NamesApart) (apart : KeptApart f.settings files)
    (absent : files.read f.settings.localRules = .error .notFound)
    (added : (f.addRule files line).result = .ok true) :
    line.trim ≠ [] ∧ StoresFirst files f line.trim (f.addRule files line) := by
  have hidden (bytes : List UInt8) :
      (files.createParent f.settings.localRules).1.read f.settings.localRules ≠ .ok bytes := by
    intro revealed
    have found := apart.concealed f.settings.localRules List.mem_cons_self bytes revealed
    rw [absent] at found
    cases found
  have start := FileTree.between_refl files f.settings.localRules
  have made := FileTree.between_make files f.settings.localRules files start
  obtain ⟨some_line, -, after, appended, edited⟩ := stored_of_added f files line added
  rw [edited]
  refine ⟨some_line, ?_⟩
  rcases files.append_line_cases f.settings.localRules line.trim with
    ⟨failure, failed⟩ | ⟨place, led, free, written⟩
  · cases (Prod.mk.inj (failed.symm.trans appended)).2
  · generalize (files.createParent f.settings.localRules).1 = tree at *
    rcases tree.content_at_cases f.settings.localRules place led with revealed | ⟨vacant, -⟩
    · exact absurd revealed (hidden _)
    rw [vacant, List.nil_append] at written
    obtain rfl := (Prod.mk.inj (written.symm.trans appended)).1
    have settings : (f.withLine line.trim).settings = f.settings := remember_settings f _
    have between := FileTree.between_put files f.settings.localRules tree made place
      (Utf8.encode (Text.unlines [line.trim])) led free
    refine ⟨settings, between, tree.read_put place _ free _ led, ?_, rfl⟩
    apply subscribed_congr f.settings files apart _ files between start _ f settings rfl
    intro list member
    exact remember_other f line.trim list.name (names.reserved list member)

theorem remove_parted (parted : '\n' ∈ line.trim) (bytes : List UInt8)
    (read : files.read f.settings.localRules = .ok bytes) :
    f.removeRule files line = ⟨f, files, .ok false⟩ := by
  have stored := (files.read_lines_if_any_ok f.settings.localRules _).mpr
    (Or.inl ⟨bytes, read, rfl⟩)
  rcases f.remove_rule_of_read files line _ stored with
    ⟨-, removed⟩ | ⟨⟨-, other, member, same⟩, -⟩
  · exact removed
  · have single := Text.single_of_lines (Utf8.decodeLossy bytes) other member
    exact absurd (other.trim_within.subset (same ▸ parted)) single

theorem remove_only_line (single : '\n' ∉ line.trim) (some_line : line.trim ≠ [])
    (read : files.read f.settings.localRules =
      .ok (Utf8.encode (Text.unlines [line.trim]))) :
    ∃ place, files.locate f.settings.localRules = .ok place ∧
      files.entryAt? place ≠ some .directory ∧
      f.removeRule files line = ⟨(f.reload (files.put place (.file []))).1,
        files.put place (.file []), .ok true⟩ := by
  have alone : linesOf (Utf8.encode (Text.unlines [line.trim])) = [line.trim] := by
    rw [lines_of_single _ line.trim_trimmed some_line, Text.lines_whole _ single some_line]
  have stored : files.readLinesIfAny f.settings.localRules = .ok [line.trim] :=
    (files.read_lines_if_any_ok f.settings.localRules _).mpr (Or.inl ⟨_, read, alone.symm⟩)
  have kept : ([line.trim].filter fun other => Text.trim other != line.trim) = [] := by simp
  have among : HasLine [line.trim] line :=
    ⟨some_line, line.trim, List.mem_singleton_self _, line.trim_trim⟩
  rcases f.remove_rule_of_read files line _ stored with
    ⟨absent, -⟩ | ⟨-, after, written, -, removed⟩
  · exact absurd among absent
  · rw [kept] at written
    obtain ⟨place, led, free, rfl⟩ := files.write_ok after _ _ written
    exact ⟨place, led, free, removed⟩

end edits

/-- A rule was taken back: the file has no rules any more, and those in effect are those that were
before. -/
structure Withdrawn (before : LiveFilter) (after : Edited) : Prop where
  answer : after.result = .ok true
  emptied : after.files.read before.settings.localRules = .ok []
  active : after.filter.active = before.active

namespace StoresFirst

variable {files : FileTree} {before : LiveFilter} {text line : Text} {after : Edited}
  (names : before.settings.NamesApart)
  (active : before.active = (Builder.addLines {} (before.subscribedLines files)).set)

include names active

theorem agrees (stores : StoresFirst files before text after) (trimmed : Text.IsTrimmed text)
    (some_text : text ≠ []) (single : '\n' ∉ text) : Agrees after.filter after.files := by
  have named : after.filter.settings.NamesApart := stores.settings.symm ▸ names
  have own : after.files.readLinesIfAny after.filter.settings.localRules = .ok [text] := by
    rw [stores.settings]
    refine (FileTree.read_lines_if_any_ok _ _ _).mpr (Or.inl ⟨_, stores.read, ?_⟩)
    rw [lines_of_single text trimmed some_text, Text.lines_whole text single some_text]
  constructor
  · exact reload_ok_of_read after.filter after.files _ own
  · rw [reload_subscribed_and_own after.filter after.files named [text] own, stores.subscribed,
      stores.active, active, Builder.addLines, List.foldl_append, ← Builder.add_line_set]
    rfl

theorem withdrawn (stores : StoresFirst files before line.trim after)
    (apart : KeptApart before.settings files) (single : '\n' ∉ line.trim)
    (some_line : line.trim ≠ []) (f : LiveFilter) (settings : f.settings = before.settings)
    (subscribed : f.subscribedLines after.files = before.subscribedLines files) :
    Withdrawn before (f.removeRule after.files line) := by
  have between := stores.between
  have read := stores.read
  rw [← settings] at between read names apart
  obtain ⟨place, led, free, removed⟩ := remove_only_line f after.files line single some_line read
  have emptied := FileTree.read_put _ place [] free _ led
  have nothing := (FileTree.read_lines_if_any_ok _ _ []).mpr (Or.inl ⟨[], emptied, rfl⟩)
  have lists := subscribed_congr f.settings files apart _ after.files
    (FileTree.between_put files f.settings.localRules after.files between place [] led free) between
    f f rfl rfl fun _ _ => rfl
  rw [removed]
  refine ⟨rfl, settings ▸ emptied, ?_⟩
  rw [reload_subscribed_and_own f _ names [] nothing, lists, subscribed, List.append_nil, active]

end StoresFirst

def reloadAndAdd (f₀ : LiveFilter) (files : FileTree) (line : Text) : Edited :=
  (f₀.reload files).1.addRule files line

/-- A rule that was added is in effect as it would be after a reload, and it can be taken back when
the filter has been reloaded again so many times. -/
structure TakenBack (f₀ : LiveFilter) (files : FileTree) (line : Text) (reloads : Nat) : Prop where
  agrees : Agrees (reloadAndAdd f₀ files line).filter (reloadAndAdd f₀ files line).files
  withdrawn : Withdrawn (f₀.reload files).1
    (((fun f : LiveFilter => (f.reload (reloadAndAdd f₀ files line).files).1)^[reloads]
      (reloadAndAdd f₀ files line).filter).removeRule (reloadAndAdd f₀ files line).files line)

/-- The first rule of a user can be taken back if its text is a single line. -/
theorem added_rule_taken_back (f₀ : LiveFilter) (files : FileTree) (line : Text)
    (names : f₀.settings.NamesApart) (apart : KeptApart f₀.settings files)
    (absent : files.read f₀.settings.localRules = .error .notFound)
    (added : (reloadAndAdd f₀ files line).result = .ok true) (single : '\n' ∉ line.trim)
    (reloads : Nat) : TakenBack f₀ files line reloads := by
  have settings : (f₀.reload files).1.settings = f₀.settings := reload_settings f₀ files
  have nothing := (files.read_lines_if_any_ok f₀.settings.localRules []).mpr
    (Or.inr ⟨absent, rfl⟩)
  have active := reload_subscribed_and_own f₀ files names [] nothing
  rw [List.append_nil, ← subscribed_reload f₀ files names] at active
  rw [← settings] at names apart absent
  obtain ⟨some_line, stores⟩ := add_first_line _ files line names apart absent added
  have named : (reloadAndAdd f₀ files line).filter.settings.NamesApart :=
    stores.settings.symm ▸ names
  obtain ⟨kept, subscribed⟩ := subscribed_reloads _ _ named reloads
  constructor
  · exact stores.agrees names active line.trim_trimmed some_line single
  · exact stores.withdrawn names active apart single some_line _ (kept.trans stores.settings)
      (subscribed.trans stores.subscribed)

def adOnly : FileTree := oneFile "lists".toList "easylist".toList "##.ad\n".toList

theorem banner_taken_back :
    (reloadAndAdd { settings := customDirectory } adOnly " ##.banner".toList).result = .ok true ∧
      TakenBack { settings := customDirectory } adOnly " ##.banner".toList 1 :=
  ⟨rfl, added_rule_taken_back { settings := customDirectory } adOnly " ##.banner".toList
    ⟨by decide, by decide⟩ custom_directory_apart rfl rfl (by decide) 1⟩

def twoHosts : Text := "||a.example^\n||b.example^".toList

def detouredList : Settings where
  localRules := "/lists/new/rules".toList
  subscriptions := [{ name := "easylist".toList, path := "/lists/new/../easylist".toList }]

def namesakes : Settings where
  localRules := "/custom/rules".toList
  subscriptions := [{ name := "easylist".toList, path := "/lists/missing".toList },
    { name := "easylist".toList, path := "/lists/easylist".toList }]

def reservedName : Settings where
  localRules := "/custom/rules".toList
  subscriptions := [{ name := localName, path := "/lists/missing".toList }]

/-- The first rule of a user is added, but it cannot be taken back as it should be. -/
structure Stays (s : Settings) (files : FileTree) (line : Text) : Prop where
  absent : files.read s.localRules = .error .notFound
  added : (reloadAndAdd { settings := s } files line).result = .ok true
  stays : ¬ TakenBack { settings := s } files line 1

/-- Where a reload hides by another number of selectors, the rule is not in effect as it would be. -/
theorem stays_of_size (s : Settings) (files : FileTree) (line : Text)
    (absent : files.read s.localRules = .error .notFound)
    (added : (reloadAndAdd { settings := s } files line).result = .ok true)
    (differs : ((reloadAndAdd { settings := s } files line).filter.reload
        (reloadAndAdd { settings := s } files line).files).1.active.hidden.generic.size ≠
      (reloadAndAdd { settings := s } files line).filter.active.hidden.generic.size) :
    Stays s files line := by
  refine ⟨absent, added, fun taken => differs ?_⟩
  rw [taken.agrees.2]

theorem two_hosts_rule : (Rule.inLine? twoHosts.trim).isSome = true := by
  have whole : twoHosts.trim = twoHosts := by decide
  have parted : Options.split twoHosts = (twoHosts, {}) := by decide
  have line := Rule.of_line_block twoHosts (by decide) (by decide) (by decide) (by decide)
    (by decide)
  rw [whole] at line
  have reads := Rule.reads_as_split .block twoHosts twoHosts line
  rw [parted] at reads
  obtain ⟨rule, found, -⟩ := reads.compiled (fun resource => by cases resource) _
    (Pattern.compile_small twoHosts rfl (by decide))
  rw [whole, Rule.inLine?, found]
  rfl

theorem two_hosts_stored : reloadAndAdd { settings := customDirectory } adOnly twoHosts =
    ⟨(({ settings := customDirectory } : LiveFilter).reload adOnly).1.withLine twoHosts.trim,
      (adOnly.appendLine "/custom/rules".toList twoHosts.trim).1, .ok true⟩ := by
  rw [← two_hosts_rule]
  exact add_rule_of_appended _ adOnly _ twoHosts (by decide) [] rfl (by decide) rfl

theorem added_rule_may_stay :
    Stays customDirectory adOnly twoHosts ∧
      Stays sharedFile (FileTree.emptyAt ["lists".toList]) "##.ad".toList ∧
      Stays detour (oneFile "lists".toList "rules".toList "##.old\n".toList) "##.ad".toList ∧
      Stays detouredList adOnly "##.banner".toList ∧
      Stays namesakes adOnly "##.banner".toList ∧ Stays reservedName adOnly "##.banner".toList := by
  refine ⟨⟨rfl, congrArg Edited.result two_hosts_stored, ?_⟩, ?_, ?_, ?_, ?_, ?_⟩
  · intro taken
    have answer := taken.withdrawn.answer
    rw [two_hosts_stored] at answer
    rw [remove_parted _ _ twoHosts (by decide) _ rfl] at answer
    cases answer
  · exact stays_of_size _ _ _ rfl rfl (by decide)
  · exact stays_of_size _ _ _ rfl rfl (by decide)
  · exact stays_of_size _ _ _ rfl rfl (by decide)
  · exact stays_of_size _ _ _ rfl rfl (by decide)
  · exact stays_of_size _ _ _ rfl rfl (by decide)

end ContentFilter.LiveFilter
