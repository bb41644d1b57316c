import ContentFilter.Proofs.Live.Edits
/-!
Reloads by what went before them. Of all that was done with a filter two kinds of events bear on
the lines that its lists count with: a list was read, or a rule of the user was stored. The cache is
what these events leave behind, and so a reload publishes the lines that its sources have now or
had last, through every run of edits, reloads and changes of the settings, while the files change
in any way between the steps.
-/
namespace ContentFilter

inductive Event
  /-- A list of this name was read. -/
  | read (name : Text) (lines : List Text)
  /-- A rule of the user was stored. -/
  | stored (line : Text)
  deriving DecidableEq, Repr

namespace Event

def linesOf? (name : Text) : Event → Option (List Text)
  | read other lines => if other = name then some lines else none
  | stored _ => none

def stored? : Event → Option Text
  | read _ _ => none
  | stored line => some line

/-- The rules that were stored after the list was last read. Histories begin with the newest
event. -/
def storedSince (name : Text) (history : List Event) : List Text :=
  ((history.takeWhile fun e => (e.linesOf? name).isNone).filterMap stored?).reverse

/-- The lines that a list had when it was last read, and for the list of the user's rules those
that were stored since then. -/
def lastLines? (name : Text) (history : List Event) : Option (List Text) :=
  (history.findSome? (linesOf? name)).map fun lines =>
    if name = LiveFilter.localName then lines ++ storedSince name history else lines

def readings (files : FileTree) (sources : List Source) : List Event :=
  sources.filterMap fun source => (source.readLines files).toOption.map (read source.name)

theorem readings_cons (files : FileTree) (source : Source) (rest : List Source) :
    readings files (source :: rest) =
      ((source.readLines files).toOption.map (read source.name)).toList ++ readings files rest := by
  rw [readings, List.filterMap_cons]
  cases (source.readLines files).toOption <;> rfl

section lastLines

variable (name : Text) (history : List Event)

theorem last_lines_read (lines : List Text) :
    lastLines? name (read name lines :: history) = some lines := by
  simp [lastLines?, linesOf?, storedSince]

theorem last_lines_cons (e : Event) (unread : e.linesOf? name = none) :
    lastLines? name (e :: history) =
      (history.findSome? (linesOf? name)).map fun lines =>
        if name = LiveFilter.localName then
          lines ++ storedSince name history ++ e.stored?.toList
        else lines := by
  have since : storedSince name (e :: history) =
      storedSince name history ++ e.stored?.toList := by
    have goesOn : (e.linesOf? name).isNone = true := by rw [unread, Option.isNone_none]
    simp only [storedSince, List.takeWhile_cons, goesOn, if_true, List.filterMap_cons]
    cases e.stored? with
    | none => simp
    | some line => simp
  rw [lastLines?, List.findSome?_cons, unread, since]
  simp only [List.append_assoc]

theorem last_lines_read_other (other : Text) (lines : List Text) (differs : other ≠ name) :
    lastLines? name (read other lines :: history) = lastLines? name history := by
  have unread : (read other lines).linesOf? name = none := if_neg differs
  rw [last_lines_cons name history _ unread, lastLines?]
  simp [stored?]

theorem last_lines_stored (line : Text) :
    lastLines? name (stored line :: history) =
      (lastLines? name history).map fun lines =>
        if name = LiveFilter.localName then lines ++ [line] else lines := by
  rw [last_lines_cons name history _ rfl, lastLines?, Option.map_map]
  congr 1
  funext lines
  by_cases isLocal : name = LiveFilter.localName
  · simp [isLocal, stored?]
  · simp [isLocal]

end lastLines

end Event

open Event

namespace LineCache

/-- The cache has the last lines of every list. -/
def Reflects (cache : LineCache) (history : List Event) : Prop :=
  ∀ name, Table.get? cache name = lastLines? name history

theorem reflects_new : Reflects {} [] := by
  intro name
  rfl

theorem reflects_read (cache : LineCache) (history : List Event) (name : Text) (lines : List Text)
    (reflects : cache.Reflects history) :
    Reflects (Table.put cache name lines) (read name lines :: history) := by
  intro other
  rw [Table.get?_put]
  by_cases same : other = name
  · rw [if_pos same, same, last_lines_read]
  · rw [if_neg same, last_lines_read_other other history name lines (Ne.symm same)]
    exact reflects other

theorem reflects_gather (files : FileTree) (cache : LineCache) (history : List Event)
    (sources : List Source) (reflects : cache.Reflects history) :
    Reflects (cache.gather files sources).1 ((readings files sources).reverse ++ history) := by
  induction sources generalizing cache history with
  | nil => exact reflects
  | cons source rest ih =>
      rw [gather, readings_cons]
      cases source.readLines files with
      | ok lines =>
          have kept := reflects_read cache history source.name lines reflects
          have later := ih _ _ kept
          simpa [Except.toOption] using later
      | error failure =>
          have later := ih _ _ reflects
          simpa [Except.toOption] using later

theorem reflects_remember (f : LiveFilter) (history : List Event) (line : Text)
    (reflects : f.cache.Reflects history) :
    Reflects (f.remember line).cache (stored line :: history) := by
  intro name
  rw [last_lines_stored, ← reflects name, LiveFilter.remember]
  by_cases isLocal : name = LiveFilter.localName
  · subst isLocal
    cases known : Table.get? f.cache LiveFilter.localName with
    | none => simpa using known
    | some lines => simp [Table.get?_put]
  · simp only [isLocal, if_false, Option.map_id']
    exact LiveFilter.remember_other f line name isLocal

/-- The lines that a source counts with after a history. -/
def contributionAfter (history : List Event) (files : FileTree) (source : Source) :
    Option (List Text) :=
  match source.readLines files with
  | .ok lines => some lines
  | .error _ => lastLines? source.name history

theorem contribution_after (cache : LineCache) (history : List Event) (files : FileTree)
    (source : Source) (reflects : cache.Reflects history) :
    cache.contribution files source = contributionAfter history files source := by
  unfold contribution contributionAfter
  cases source.readLines files with
  | ok lines => rfl
  | error failure => exact reflects source.name

end LineCache

namespace LiveFilter

def storedBy? (s : Settings) (files : FileTree) (written : Text) : Option Text :=
  let line := written.trim
  if line.isEmpty then none
  else match files.readLinesIfAny s.localRules with
    | .error _ => none
    | .ok known =>
      if known.any fun other => Text.trim other == line then none
      else match files.appendLine s.localRules line with
        | (_, .error _) => none
        | (_, .ok ()) => some line

def rewrittenBy? (s : Settings) (files : FileTree) (written : Text) : Option FileTree :=
  let line := written.trim
  if line.isEmpty then none
  else match files.readLinesIfAny s.localRules with
    | .error _ => none
    | .ok known =>
      let kept := known.filter fun other => Text.trim other != line
      if kept.length = known.length then none
      else (files.write s.localRules (Utf8.encode (fileText kept))).toOption

theorem add_rule_filter (f : LiveFilter) (files : FileTree) (line : Text) :
    (f.addRule files line).filter = (storedBy? f.settings files line).elim f f.withLine := by
  have outcome := add_rule_step f files line
  generalize f.addRule files line = edited at outcome ⊢
  cases outcome with
  | blank nothing => simp [storedBy?, nothing]
  | unread some_line fault read => simp [storedBy?, some_line, read]
  | known some_line lines read found => simp [storedBy?, some_line, read, found]
  | unwritten some_line lines read fresh after failure failed =>
      simp [storedBy?, some_line, read, fresh, failed]
  | stored some_line lines read fresh after appended =>
      simp [storedBy?, some_line, read, fresh, appended]

theorem remove_rule_eq (f : LiveFilter) (files : FileTree) (line : Text) :
    match rewrittenBy? f.settings files line with
    | none => (f.removeRule files line).filter = f
    | some after =>
      f.removeRule files line =
        ⟨(f.reload after).1, after, (f.reload after).2.map fun _ => true⟩ := by
  have outcome := remove_rule_step f files line
  generalize f.removeRule files line = edited at outcome ⊢
  cases outcome with
  | blank nothing => simp [rewrittenBy?, nothing]
  | unread some_line fault read => simp [rewrittenBy?, some_line, read]
  | absent some_line lines read all =>
      simp only [rewrittenBy?, List.isEmpty_iff, some_line, if_false, read, all, if_true]
  | unwritten some_line lines read fewer fault failed =>
      simp only [rewrittenBy?, List.isEmpty_iff, some_line, if_false, read, fewer, failed,
        Except.toOption]
  | rewritten some_line lines read fewer after written =>
      simp only [rewrittenBy?, List.isEmpty_iff, some_line, if_false, read, fewer, written,
        Except.toOption]

/-- What is done with a filter: its rules are edited or read anew, other lists are loaded, or the
settings replaced. -/
inductive Step
  | edit (e : Edit)
  | load (sources : List Source)
  | configure (settings : Settings)
  deriving DecidableEq, Repr

def step (f : LiveFilter) (files : FileTree) : Step → LiveFilter
  | .edit e => (f.edit files e).1
  | .load sources => (f.reloadFrom files sources).1
  | .configure settings => { f with settings }

def runSteps (f : LiveFilter) (steps : List (FileTree × Step)) : LiveFilter :=
  steps.foldl (fun f (files, s) => f.step files s) f

/-- What a step reloads, if it does: the sources, and the files that they are read from. -/
def reloadBy? (s : Settings) (files : FileTree) : Step → Option (FileTree × List Source)
  | .edit .reload => some (files, configuredSources s)
  | .edit (.remove line) => (rewrittenBy? s files line).map (·, configuredSources s)
  | .edit (.add _) => none
  | .load sources => some (files, sources)
  | .configure _ => none

def storedIn? (s : Settings) (files : FileTree) : Step → Option Text
  | .edit (.add line) => storedBy? s files line
  | _ => none

def events (s : Settings) (files : FileTree) (step : Step) : List Event :=
  (storedIn? s files step).toList.map .stored ++
    (reloadBy? s files step).elim [] fun (tree, sources) => readings tree sources

def Step.settingsAfter (s : Settings) : Step → Settings
  | configure settings => settings
  | _ => s

def history : Settings → List (FileTree × Step) → List Event
  | _, [] => []
  | s, (files, step) :: later =>
    history (step.settingsAfter s) later ++ (events s files step).reverse

section steps

variable (f : LiveFilter) (files : FileTree)

/-- What a step can make of the filter. -/
inductive Stepped (s : Step) : LiveFilter → Prop
  | unchanged (stored : storedIn? f.settings files s = none)
      (reload : reloadBy? f.settings files s = none)
      (settings : s.settingsAfter f.settings = f.settings) : Stepped s f
  | stored (line : Text) (stored : storedIn? f.settings files s = some line)
      (reload : reloadBy? f.settings files s = none)
      (settings : s.settingsAfter f.settings = f.settings) : Stepped s (f.withLine line)
  | reloaded (tree : FileTree) (sources : List Source)
      (stored : storedIn? f.settings files s = none)
      (reload : reloadBy? f.settings files s = some (tree, sources))
      (settings : s.settingsAfter f.settings = f.settings) :
      Stepped s (f.reloadFrom tree sources).1
  | configured (settings : Settings) (stored : storedIn? f.settings files s = none)
      (reload : reloadBy? f.settings files s = none)
      (same : s.settingsAfter f.settings = settings) : Stepped s { f with settings }

theorem step_outcome (s : Step) : Stepped f files s (f.step files s) := by
  cases s with
  | edit e =>
      cases e with
      | add line =>
          rw [step, edit, add_rule_filter]
          cases stored : storedBy? f.settings files line with
          | none => exact .unchanged stored rfl rfl
          | some other => exact .stored other stored rfl rfl
      | remove line =>
          have removed := f.remove_rule_eq files line
          rw [step, edit]
          cases rewritten : rewrittenBy? f.settings files line with
          | none =>
              rw [rewritten] at removed
              rw [removed]
              exact .unchanged rfl (by rw [reloadBy?, rewritten, Option.map_none]) rfl
          | some after =>
              rw [rewritten] at removed
              rw [removed]
              exact .reloaded after _ rfl (by rw [reloadBy?, rewritten, Option.map_some]) rfl
      | reload => exact .reloaded files _ rfl rfl rfl
  | load sources => exact .reloaded files sources rfl rfl rfl
  | configure settings => exact .configured settings rfl rfl rfl

theorem step_reloads (s : Step) (tree : FileTree) (sources : List Source)
    (found : reloadBy? f.settings files s = some (tree, sources)) :
    f.step files s = (f.reloadFrom tree sources).1 := by
  have outcome := f.step_outcome files s
  generalize f.step files s = after at outcome
  cases outcome with
  | unchanged _ reload => cases reload.symm.trans found
  | stored _ _ reload => cases reload.symm.trans found
  | reloaded tree sources _ reload =>
      obtain ⟨rfl, rfl⟩ := Prod.mk.inj (Option.some.inj (reload.symm.trans found))
      rfl
  | configured _ _ reload => cases reload.symm.trans found

theorem step_settings (s : Step) : (f.step files s).settings = s.settingsAfter f.settings := by
  have outcome := f.step_outcome files s
  generalize f.step files s = after at outcome
  cases outcome with
  | unchanged _ _ settings => exact settings.symm
  | stored line _ _ settings => exact (remember_settings f line).trans settings.symm
  | reloaded tree sources _ _ settings =>
      exact (reload_from_settings f tree sources).trans settings.symm
  | configured _ _ _ same => exact same.symm

theorem reflects_step (known : List Event) (s : Step) (reflects : f.cache.Reflects known) :
    (f.step files s).cache.Reflects ((events f.settings files s).reverse ++ known) := by
  have outcome := f.step_outcome files s
  generalize f.step files s = after at outcome
  rw [events]
  cases outcome with
  | unchanged stored reload =>
      rw [stored, reload]
      exact reflects
  | stored line stored reload =>
      rw [stored, reload]
      exact LineCache.reflects_remember f known line reflects
  | reloaded tree sources stored reload =>
      rw [stored, reload, reload_from_cache]
      exact LineCache.reflects_gather tree f.cache known sources reflects
  | configured settings stored reload =>
      rw [stored, reload]
      exact reflects

end steps

theorem reflects_run (f : LiveFilter) (known : List Event) (steps : List (FileTree × Step))
    (reflects : f.cache.Reflects known) :
    (f.runSteps steps).cache.Reflects (history f.settings steps ++ known) := by
  induction steps generalizing f known with
  | nil => exact reflects
  | cons first later ih =>
      obtain ⟨files, s⟩ := first
      have next := ih _ _ (f.reflects_step files known s reflects)
      rw [step_settings] at next
      rw [history, List.append_assoc]
      exact next

/-- Every source counts with its last lines where it cannot be read, and the rules of all these
lines are built anew; where no source counts with any nothing is. -/
theorem reload_from_history (f : LiveFilter) (known : List Event) (files : FileTree)
    (sources : List Source) (distinct : (sources.map Source.name).Nodup)
    (reflects : f.cache.Reflects known) :
    f.reloadFrom files sources =
      let counts := sources.map (LineCache.contributionAfter known files)
      let built := Builder.addLines {} (counts.filterMap id).flatten
      let cache := (f.cache.gather files sources).1
      if sources ≠ [] ∧ ∀ lines ∈ counts, lines = none then
        ({ f with cache }, .error (.noUsableSource sources.length))
      else ({ f with active := built.set, cache }, .ok built.tally) := by
  have counts : (f.cache.gather files sources).2 =
      sources.map (LineCache.contributionAfter known files) := by
    rw [(LineCache.gather_contributions files f.cache sources distinct).1]
    apply List.map_congr_left
    intro source _
    exact LineCache.contribution_after f.cache known files source reflects
  rw [reloadFrom]
  dsimp only
  rw [counts]
  generalize sources.map (LineCache.contributionAfter known files) = counts
  have none_counts : (counts.filterMap id).isEmpty = true ↔ ∀ lines ∈ counts, lines = none := by
    simp
  by_cases nothing : sources ≠ [] ∧ ∀ lines ∈ counts, lines = none
  · rw [if_pos nothing, if_pos]
    rw [none_counts.mpr nothing.2, Bool.and_true, Bool.not_eq_true', List.isEmpty_eq_false_iff]
    exact nothing.1
  · rw [if_neg nothing, if_neg]
    rw [Bool.and_eq_true, none_counts]
    simpa using nothing

/-- Whatever was done before and whichever rules are active, a step that reloads from sources of
different names fails just when there are sources and none counts, and otherwise publishes the
rules of the lines that they count with, and their tally. -/
theorem reload_publishes_last_lines (s : Settings) (active : RuleSet)
    (steps : List (FileTree × Step)) (files tree : FileTree) (last : Step) (sources : List Source)
    (reloads : reloadBy? (runSteps { settings := s, active } steps).settings files last =
      some (tree, sources))
    (distinct : (sources.map Source.name).Nodup) :
    let f := runSteps { settings := s, active } steps
    let counts := sources.map (LineCache.contributionAfter (history s steps) tree)
    let built := Builder.addLines {} (counts.filterMap id).flatten
    let reloaded := f.reloadFrom tree sources
    f.step files last = reloaded.1 ∧
      (∀ line, last = .edit (.remove line) →
        (f.removeRule files line).result = reloaded.2.map fun _ => true) ∧
      (reloaded.2 = .error (.noUsableSource sources.length) ↔
        sources ≠ [] ∧ ∀ lines ∈ counts, lines = none) ∧
      (¬ (sources ≠ [] ∧ ∀ lines ∈ counts, lines = none) →
        reloaded.2 = .ok built.tally ∧ reloaded.1.active = built.set) := by
  intro f counts built reloaded
  have reflects : f.cache.Reflects (history s steps) := by
    have run := reflects_run { settings := s, active } [] steps LineCache.reflects_new
    rwa [List.append_nil] at run
  have outcome : reloaded = _ :=
    f.reload_from_history (history s steps) tree sources distinct reflects
  refine ⟨f.step_reloads files last tree sources reloads, ?_, ?_, ?_⟩
  · intro line isRemoval
    subst isRemoval
    obtain ⟨after, rewritten, same⟩ := Option.map_eq_some_iff.mp reloads
    obtain ⟨rfl, rfl⟩ := Prod.mk.inj same
    have removed := f.remove_rule_eq files line
    rw [rewritten] at removed
    rw [removed]
    rfl
  · rw [outcome]
    dsimp only
    split
    · rename_i nothing
      exact iff_of_true rfl nothing
    · rename_i something
      exact iff_of_false (by simp) something
  · intro something
    rw [outcome]
    dsimp only
    rw [if_neg something]
    exact ⟨rfl, rfl⟩

def loadAndAdd : List (FileTree × Step) :=
  [(oneFile "lists".toList "easylist".toList "##.ad\n".toList, .edit .reload),
    (oneFile "lists".toList "easylist".toList "##.ad\n".toList, .edit (.add "##.banner".toList))]

def blockedWay : FileTree := (FileTree.emptyAt []).put ["custom".toList] (.file [])

/-- When neither the list nor the file of the user's rules can be read any more, the line that the
list had and the rule that was added since are loaded once more. -/
theorem last_lines_survive :
    ∃ tally, ((runSteps { settings := customDirectory } loadAndAdd).reload blockedWay).2 =
        .ok tally ∧
      ((runSteps { settings := customDirectory } loadAndAdd).reload blockedWay).1.active.hidden =
        { generic := #[".ad".toList, ".banner".toList] } := by
  obtain ⟨-, -, -, publishes⟩ := reload_publishes_last_lines customDirectory {} loadAndAdd
    blockedWay blockedWay (.edit .reload) (configuredSources customDirectory) rfl (by decide)
  have some_counts : ¬ (configuredSources customDirectory ≠ [] ∧
      ∀ lines ∈ (configuredSources customDirectory).map (LineCache.contributionAfter
        (history customDirectory loadAndAdd) blockedWay), lines = none) := by decide +kernel
  have published := publishes some_counts
  have settings : (runSteps { settings := customDirectory } loadAndAdd).settings =
      customDirectory := rfl
  rw [reload, settings]
  refine ⟨_, published.1, ?_⟩
  rw [published.2]
  decide +kernel

end LiveFilter

end ContentFilter
