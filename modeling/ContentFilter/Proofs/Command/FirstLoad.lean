import ContentFilter.Command.Run
import ContentFilter.Proofs.Live.Edits
/-!
What a command loads. It begins with an empty cache, which goes by the names of the files without
their directories and has the lines of each file as soon as they are read. So a file that cannot be
read counts with the lines of the last file before it that has its name and could be read, and these
lines count twice.
-/
namespace ContentFilter

theorem Builder.add_lines_tally (b : Builder) (lines : List Text) :
    (b.addLines lines).tally.lines = b.tally.lines + lines.length := by
  induction lines generalizing b with
  | nil => rfl
  | cons line rest ih =>
      have one_more : (b.addLine line).tally.lines = b.tally.lines + 1 := by
        unfold addLine
        rcases Rule.ofLine line with _ | _ | rule
        · rfl
        · rfl
        · rcases rule with ⟨_ | _, host⟩ | ⟨_ | _, pattern⟩ | hidden
          all_goals rfl
      calc (b.addLines (line :: rest)).tally.lines
        _ = (b.addLine line).tally.lines + rest.length := ih (b.addLine line)
        _ = b.tally.lines + (line :: rest).length := by
            rw [one_more, List.length_cons]
            omega

namespace Command

def listName (path : Text) : Text := (Path.fileName? path).getD []

def listSource (path : Text) : Source := .file (listName path) path false

section lists

variable (files : FileTree)

def readableLists (paths : List Text) : List (List Text) :=
  paths.filterMap fun path => (files.readLines path).toOption

def lastCopy? (name : Text) (paths : List Text) : Option (List Text) :=
  (readableLists files (paths.filter fun path => listName path = name)).getLast?

def countedAfter (before : List Text) : List Text → List (Option (List Text))
  | [] => []
  | path :: rest =>
    lastCopy? files (listName path) (before ++ [path]) :: countedAfter (before ++ [path]) rest

/-- The lines that a load of some files counts. -/
def countedLines (before paths : List Text) : List Text :=
  ((countedAfter files before paths).filterMap id).flatten

/-- No file that cannot be read finds lines of a file of its name to count again. -/
def CountsOnce (before paths : List Text) : Prop :=
  ∀ front path rear, paths = front ++ path :: rear → ∀ fault, files.readLines path = .error fault →
    (lastCopy? files (listName path) (before ++ front)).getD [] = []

theorem readable_lists_cons (path : Text) (rest : List Text) :
    readableLists files (path :: rest) =
      (files.readLines path).toOption.toList ++ readableLists files rest := by
  rw [readableLists, List.filterMap_cons]
  cases (files.readLines path).toOption <;> rfl

theorem last_copy_none (name : Text) (paths : List Text)
    (nothing : readableLists files paths = []) : lastCopy? files name paths = none := by
  have fewer := (List.filter_sublist (p := fun path => listName path = name) (l := paths)).filterMap
    fun path => (files.readLines path).toOption
  rw [← readableLists, ← readableLists, nothing, List.sublist_nil] at fewer
  rw [lastCopy?, fewer, List.getLast?_nil]

theorem last_copy_append (name : Text) (paths later : List Text) :
    lastCopy? files name (paths ++ later) =
      (lastCopy? files name later).or (lastCopy? files name paths) := by
  rw [lastCopy?, readableLists, List.filter_append, List.filterMap_append, List.getLast?_append]
  rfl

theorem last_copy_concat (name : Text) (paths : List Text) (path : Text) :
    lastCopy? files name (paths ++ [path]) =
      if name = listName path then (files.readLines path).toOption.or (lastCopy? files name paths)
      else lastCopy? files name paths := by
  rw [last_copy_append]
  by_cases same : listName path = name
  · rw [if_pos same.symm]
    cases read : files.readLines path <;>
      simp [lastCopy?, readableLists, same, read, Except.toOption]
  · rw [if_neg (Ne.symm same)]
    simp [lastCopy?, readableLists, same]

theorem last_copy_own (before : List Text) (path : Text) :
    lastCopy? files (listName path) (before ++ [path]) =
      (files.readLines path).toOption.or (lastCopy? files (listName path) before) := by
  rw [last_copy_concat, if_pos rfl]

theorem gather_counted (cache : LineCache) (before paths : List Text)
    (kept : ∀ name, Table.get? cache name = lastCopy? files name before) :
    (cache.gather files (paths.map listSource)).2 = countedAfter files before paths := by
  induction paths generalizing cache before with
  | nil => rfl
  | cons path rest ih =>
      have source : (listSource path).readLines files =
          (files.readLines path).mapError (.file path) := rfl
      rw [List.map_cons, LineCache.gather, source, countedAfter, last_copy_own]
      cases read : files.readLines path with
      | ok lines =>
          have next : ∀ name, Table.get? (Table.put cache (listName path) lines) name =
              lastCopy? files name (before ++ [path]) := by
            intro name
            rw [Table.get?_put, last_copy_concat, read, kept]
            rfl
          exact congrArg _ (ih _ _ next)
      | error fault =>
          have next : ∀ name, Table.get? cache name = lastCopy? files name (before ++ [path]) := by
            intro name
            rw [last_copy_concat, read, kept]
            split <;> rfl
          exact congrArg₂ _ (kept _) (ih _ _ next)

theorem counted_lines_cons (before : List Text) (path : Text) (rest : List Text) :
    countedLines files before (path :: rest) =
      ((files.readLines path).toOption.or (lastCopy? files (listName path) before)).getD [] ++
        countedLines files (before ++ [path]) rest := by
  rw [countedLines, countedAfter, last_copy_own, List.filterMap_cons]
  cases (files.readLines path).toOption.or (lastCopy? files (listName path) before) <;> rfl

theorem counts_once_cons (before : List Text) (path : Text) (rest : List Text) :
    CountsOnce files before (path :: rest) ↔
      (∀ fault, files.readLines path = .error fault →
        (lastCopy? files (listName path) before).getD [] = []) ∧
        CountsOnce files (before ++ [path]) rest := by
  constructor
  · intro once
    refine ⟨?_, ?_⟩
    · intro fault unread
      simpa using once [] path rest rfl fault unread
    · intro front other rear same fault unread
      simpa using once (path :: front) other rear (by rw [same, List.cons_append]) fault unread
  · intro ⟨first, later⟩ front other rear same fault unread
    rcases List.cons_eq_append_iff.mp same with ⟨rfl, here⟩ | ⟨front, rfl, behind⟩
    · obtain ⟨rfl, -⟩ := List.cons.inj here
      rw [List.append_nil]
      exact first fault unread
    · rw [List.append_cons]
      exact later front other rear behind fault unread

theorem readable_lines_counted (before paths : List Text) :
    (readableLists files paths).flatten.Sublist (countedLines files before paths) := by
  induction paths generalizing before with
  | nil => exact List.Sublist.refl []
  | cons path rest ih =>
      have later := ih (before ++ [path])
      rw [counted_lines_cons, readable_lists_cons]
      cases files.readLines path with
      | ok lines => exact later.append_left lines
      | error fault => exact later.trans (List.sublist_append_right ..)

theorem counted_once_iff (before paths : List Text) :
    countedLines files before paths = (readableLists files paths).flatten ↔
      CountsOnce files before paths := by
  induction paths generalizing before with
  | nil => simp [countedLines, countedAfter, readableLists, CountsOnce]
  | cons path rest ih =>
      rw [counts_once_cons, ← ih, readable_lists_cons, counted_lines_cons]
      cases files.readLines path with
      | ok lines => simp [Except.toOption]
      | error fault =>
          dsimp only [Except.toOption, Option.none_or]
          generalize (lastCopy? files (listName path) before).getD [] = copy
          have among := (readable_lines_counted files (before ++ [path]) rest).length_le
          constructor
          · intro same
            have lengths := congrArg List.length same
            rw [List.length_append] at lengths
            obtain rfl : copy = [] := by
              apply List.eq_nil_of_length_eq_zero
              change _ = (readableLists files rest).flatten.length at lengths
              omega
            exact ⟨fun _ _ => rfl, same⟩
          · intro ⟨empty, same⟩
            rw [empty fault rfl, same]
            rfl

theorem names_apart_count_once (paths : List Text) (distinct : (paths.map listName).Nodup) :
    CountsOnce files [] paths := by
  intro front path rear same fault unread
  subst same
  rw [List.map_append, List.nodup_append] at distinct
  have others : (front.filter fun other => listName other = listName path) = [] := by
    rw [List.filter_eq_nil_iff]
    intro other member
    simpa using distinct.2.2 _ (List.mem_map_of_mem member) _ List.mem_cons_self
  rw [List.nil_append, lastCopy?, others]
  rfl

theorem nothing_counted_iff (before paths : List Text)
    (none_before : readableLists files before = []) :
    (countedAfter files before paths).filterMap id = [] ↔ readableLists files paths = [] := by
  induction paths generalizing before with
  | nil => exact Iff.rfl
  | cons path rest ih =>
      rw [countedAfter, last_copy_own, readable_lists_cons]
      cases read : files.readLines path with
      | ok lines => simp [Except.toOption]
      | error fault =>
          have still : readableLists files (before ++ [path]) = [] := by
            rw [readableLists, List.filterMap_append, ← readableLists, none_before]
            simp [read, Except.toOption]
          rw [last_copy_none files (listName path) before none_before]
          exact ih _ still

theorem load_lists_eq (paths : List Text) :
    loadLists files paths =
      if paths ≠ [] ∧ readableLists files paths = [] then
        .error (Failure.noUsableSource paths.length).message
      else
        .ok ({ active := (Builder.addLines {} (countedLines files [] paths)).set
               cache := (LineCache.gather files {} (paths.map listSource)).1 },
          (Builder.addLines {} (countedLines files [] paths)).tally) := by
  have gathered := gather_counted files {} [] paths fun _ => rfl
  have nothing := nothing_counted_iff files [] paths rfl
  have sources : (paths.map fun path => Source.file ((Path.fileName? path).getD []) path false) =
      paths.map listSource := rfl
  rw [loadLists, sources, LiveFilter.reloadFrom]
  simp only [gathered, List.length_map, List.isEmpty_map, Bool.and_eq_true, Bool.not_eq_true',
    List.isEmpty_eq_false_iff, List.isEmpty_iff, nothing]
  by_cases failed : paths ≠ [] ∧ readableLists files paths = []
  · rw [if_pos failed, if_pos failed]
  · rw [if_neg failed, if_neg failed]
    rfl

/-- A load fails just when there are files and none of them can be read. Otherwise it gives the
rules of the lines that it counts, with their tally, and these are the rules and the tally of the
files that can be read just when no lines are counted again. -/
theorem first_load_counts (paths : List Text) :
    (paths ≠ [] ∧ readableLists files paths = [] →
      loadLists files paths = .error (Failure.noUsableSource paths.length).message) ∧
    (paths = [] ∨ readableLists files paths ≠ [] →
      ∃ f tally, loadLists files paths = .ok (f, tally) ∧
        f.active = (Builder.addLines {} (countedLines files [] paths)).set ∧
        tally = (Builder.addLines {} (countedLines files [] paths)).tally ∧
        ((f.active = (Builder.addLines {} (readableLists files paths).flatten).set ∧
            tally = (Builder.addLines {} (readableLists files paths).flatten).tally) ↔
          CountsOnce files [] paths)) := by
  rw [load_lists_eq]
  constructor
  · intro nothing
    rw [if_pos nothing]
  · intro something
    rw [if_neg (by tauto)]
    refine ⟨_, _, rfl, rfl, rfl, ?_⟩
    rw [← counted_once_iff]
    constructor
    · intro ⟨_, tally⟩
      have lengths := congrArg Tally.lines tally
      rw [Builder.add_lines_tally, Builder.add_lines_tally, Nat.add_left_cancel_iff] at lengths
      exact ((readable_lines_counted files [] paths).eq_of_length lengths.symm).symm
    · intro same
      rw [same]
      exact ⟨rfl, rfl⟩

end lists

def oneList : FileTree := LiveFilter.oneFile "a".toList "list".toList "||x.example^\n".toList

/-- The second of these files is missing, and the lines of the first one count in its place. -/
theorem missing_list_counts_again :
    readableLists oneList ["/a/list".toList, "/b/list".toList] = [["||x.example^".toList]] ∧
      ∃ f tally,
        loadLists oneList ["/a/list".toList, "/b/list".toList] = .ok (f, tally) ∧
        f.active.counts.blockedHosts = 2 ∧ tally.lines = 2 ∧
        ¬ (f.active = (Builder.addLines {} ["||x.example^".toList]).set ∧
          tally = (Builder.addLines {} ["||x.example^".toList]).tally) := by
  have readable : readableLists oneList ["/a/list".toList, "/b/list".toList] =
      [["||x.example^".toList]] := rfl
  obtain ⟨f, tally, loaded, active, counted, once⟩ := (first_load_counts oneList
    ["/a/list".toList, "/b/list".toList]).2 (Or.inr (by rw [readable]; decide))
  rw [readable] at once
  refine ⟨readable, f, tally, loaded, ?_, ?_, ?_⟩
  · rw [active]
    decide
  · rw [counted]
    decide
  · intro same
    have again := once.mp same ["/a/list".toList] "/b/list".toList [] rfl .notFound rfl
    revert again
    decide

end Command

end ContentFilter
