import ContentFilter.Live.CustomRules
import ContentFilter.Proofs.Text.Cuts
/-!
Trees of files that grow. What a path leads to is found again in every tree that has the same
directories and more, making directories loses nothing and is done once, and writing a file changes
no other place. From that it follows what can be read in a tree where one file, and the directory
for it, came about.
-/
namespace ContentFilter.FileTree

theorem entry_put (t : FileTree) (place other : Place) (entry : Entry) :
    (t.put place entry).entryAt? other =
      if other = [] then some .directory
      else if other = place then some entry else t.entryAt? other := by
  unfold entryAt? put
  split
  · rfl
  · rw [Table.get?_put]

theorem entry_put_self (t : FileTree) (place : Place) (entry : Entry)
    (free : t.entryAt? place ≠ some .directory) :
    (t.put place entry).entryAt? place = some entry := by
  rw [entry_put, if_neg, if_pos rfl]
  rintro rfl
  exact free rfl

theorem entry_put_other (t : FileTree) (place other : Place) (entry : Entry)
    (differs : other ≠ place) : (t.put place entry).entryAt? other = t.entryAt? other := by
  by_cases root : other = []
  · rw [root]
    rfl
  · rw [entry_put, if_neg root, if_neg differs]

theorem step_ok (t : FileTree) (place next : Place) (part : Text)
    (stepped : t.step place part = .ok next) :
    t.entryAt? place = some .directory := by
  unfold step at stepped
  split at stepped
  · cases stepped
  · cases stepped
  · assumption

theorem step_eq (t s : FileTree) (place : Place) (part : Text)
    (here : t.entryAt? place = some .directory) (there : s.entryAt? place = some .directory) :
    s.step place part = t.step place part := by
  rw [step, step, here, there]

/-- Every directory of `t` is one of `s`, and paths begin at the same place. -/
structure DirectoriesIn (t s : FileTree) : Prop where
  start : s.start = t.start
  directories : ∀ place, t.entryAt? place = some .directory → s.entryAt? place = some .directory

theorem fold_step_ok (t s : FileTree) (within : DirectoriesIn t s) (parts : List Text)
    (place target : Place) (led : parts.foldlM t.step place = .ok target) :
    parts.foldlM s.step place = .ok target := by
  induction parts generalizing place with
  | nil => exact led
  | cons part rest ih =>
      rw [List.foldlM_cons] at led ⊢
      cases stepped : t.step place part with
      | error fault =>
          rw [stepped] at led
          cases led
      | ok next =>
          have here := step_ok t place next part stepped
          rw [step_eq t s place part here (within.directories place here), stepped]
          rw [stepped] at led
          exact ih next led

theorem locate_ok (t s : FileTree) (within : DirectoriesIn t s) (path : Text) (place : Place)
    (led : t.locate path = .ok place) : s.locate path = .ok place := by
  unfold locate at led ⊢
  split at led
  · cases led
  · rw [origin] at led ⊢
    rw [within.start]
    exact fold_step_ok t s within _ _ _ led

theorem read_ok_iff (t : FileTree) (path : Text) (bytes : List UInt8) :
    t.read path = .ok bytes ↔
      ∃ place, t.locate path = .ok place ∧ t.entryAt? place = some (.file bytes) := by
  unfold read
  cases t.locate path with
  | error fault => simp
  | ok place =>
      rcases found : t.entryAt? place with _ | _ | content <;> simp [found]

/-- Nothing of `t` is missing or different in `s`. -/
structure Keeps (t s : FileTree) : Prop where
  start : s.start = t.start
  entries : ∀ place entry, t.entryAt? place = some entry → s.entryAt? place = some entry

theorem keeps_refl (t : FileTree) : Keeps t t := ⟨rfl, fun _ _ present => present⟩

theorem keeps_trans (t s u : FileTree) (first : Keeps t s) (second : Keeps s u) : Keeps t u :=
  ⟨second.start.trans first.start,
    fun place entry present => second.entries place entry (first.entries place entry present)⟩

theorem keeps_directories (t s : FileTree) (keeps : Keeps t s) : DirectoriesIn t s :=
  ⟨keeps.start, fun place present => keeps.entries place _ present⟩

theorem read_keeps (t s : FileTree) (keeps : Keeps t s) (path : Text) (bytes : List UInt8)
    (read : t.read path = .ok bytes) : s.read path = .ok bytes := by
  obtain ⟨place, led, present⟩ := (read_ok_iff t path bytes).mp read
  have directories := keeps_directories t s keeps
  exact (read_ok_iff s path bytes).mpr ⟨place, locate_ok t s directories path place led,
    keeps.entries place _ present⟩

theorem keeps_put (t : FileTree) (place : Place) (entry : Entry) (free : t.entryAt? place = none) :
    Keeps t (t.put place entry) := by
  refine ⟨rfl, fun other present found => ?_⟩
  rw [entry_put_other t place other entry, found]
  rintro rfl
  rw [free] at found
  cases found

section createFrom

variable (t : FileTree) (made : Bool) (place : Place) (parts : List Text)

theorem create_from_keeps : Keeps t (t.createFrom made place parts).1 := by
  induction parts generalizing t made place with
  | nil => exact keeps_refl t
  | cons part rest ih =>
      rw [createFrom]
      split
      · exact keeps_refl t
      · rename_i next stepped
        split
        · rename_i free
          exact keeps_trans _ _ _ (keeps_put t next .directory free) (ih _ true next)
        · exact ih t made next
        · exact keeps_refl t

theorem create_from_file (other : Place) (content : List UInt8)
    (present : (t.createFrom made place parts).1.entryAt? other = some (.file content)) :
    t.entryAt? other = some (.file content) := by
  induction parts generalizing t made place with
  | nil => exact present
  | cons part rest ih =>
      rw [createFrom] at present
      split at present
      · exact present
      · rename_i next stepped
        split at present
        · have before := ih _ true next present
          by_cases same : other = next
          · rw [entry_put, same] at before
            split at before
            · cases before
            · simp at before
          · rwa [entry_put_other t next other _ same] at before
        · exact ih t made next present
        · exact present

theorem create_from_again (again : Bool) :
    ((t.createFrom made place parts).1.createFrom again place parts).1 =
      (t.createFrom made place parts).1 := by
  suffices unchanged : ∀ s, s = (t.createFrom made place parts).1 →
      (s.createFrom again place parts).1 = s from unchanged _ rfl
  -- `s` stays as it is while `t` grows on the way: what is left of the way is made in it already
  intro s created
  have keeps : Keeps t s := created ▸ create_from_keeps t made place parts
  induction parts generalizing t made place with
  | nil => rfl
  | cons part rest ih =>
      cases stepped : t.step place part with
      | error fault =>
          have same : s = t := by rw [created, createFrom, stepped]
          rw [same, createFrom, stepped]
      | ok next =>
          have here := step_ok t place next part stepped
          have onward : s.step place part = .ok next := by
            rw [step_eq t s place part here (keeps.entries place _ here), stepped]
          rw [createFrom, stepped] at created
          rw [createFrom, onward]
          rcases found : t.entryAt? next with _ | _ | content
          · simp only [found] at created
            have grown := created ▸ create_from_keeps (t.put next .directory) true next rest
            have free : t.entryAt? next ≠ some .directory := by simp [found]
            have present := grown.entries next _ (entry_put_self t next .directory free)
            simp only [present]
            exact ih _ true next created grown
          · simp only [found] at created
            simp only [keeps.entries next _ found]
            exact ih t made next created keeps
          · simp only [keeps.entries next _ found]

end createFrom

/-- The directories and files of `t` are in `s` too, the files perhaps with another content. -/
structure Extends (t s : FileTree) : Prop where
  start : s.start = t.start
  directories : ∀ place, t.entryAt? place = some .directory → s.entryAt? place = some .directory
  files : ∀ place content, t.entryAt? place = some (.file content) →
    ∃ other, s.entryAt? place = some (.file other)

theorem extends_refl (t : FileTree) : Extends t t :=
  ⟨rfl, fun _ present => present, fun _ content present => ⟨content, present⟩⟩

theorem extends_keeps (t s u : FileTree) (extended : Extends t s) (keeps : Keeps s u) :
    Extends t u := by
  refine ⟨keeps.start.trans extended.start, ?_, ?_⟩
  · intro place present
    exact keeps.entries place _ (extended.directories place present)
  · intro place content present
    obtain ⟨other, found⟩ := extended.files place content present
    exact ⟨other, keeps.entries place _ found⟩

theorem extends_put_directory (t s : FileTree) (place : Place) (extended : Extends t s)
    (present : s.entryAt? place = some .directory) : Extends (t.put place .directory) s := by
  refine ⟨extended.start, ?_, ?_⟩
  · intro other found
    by_cases same : other = place
    · rwa [same]
    · exact extended.directories other (entry_put_other t place other _ same ▸ found)
  · intro other content found
    by_cases same : other = place
    · rw [entry_put, same] at found
      split at found
      · cases found
      · simp at found
    · exact extended.files other content (entry_put_other t place other _ same ▸ found)

theorem extends_put_file (t s : FileTree) (place : Place) (content : List UInt8)
    (extended : Extends t s) (free : s.entryAt? place ≠ some .directory) :
    Extends t (s.put place (.file content)) := by
  refine ⟨extended.start, ?_, ?_⟩
  · intro other found
    have present := extended.directories other found
    rw [entry_put_other s place other _ (by rintro rfl; exact free present)]
    exact present
  · intro other old found
    obtain ⟨kept, present⟩ := extended.files other old found
    by_cases same : other = place
    · exact ⟨content, same ▸ entry_put_self s place _ free⟩
    · exact ⟨kept, (entry_put_other s place other _ same).trans present⟩

theorem directories_put (s made : FileTree) (place : Place) (within : DirectoriesIn s made)
    (present : made.entryAt? place = some .directory) :
    DirectoriesIn (s.put place .directory) made := by
  refine ⟨within.start, ?_⟩
  intro other found
  by_cases same : other = place
  · rwa [same]
  · exact within.directories other (entry_put_other s place other _ same ▸ found)

/-- In a tree between `t` and what becomes of `t`, the same directories are made at most. -/
theorem create_from_within (t s grown : FileTree) (made again : Bool) (place : Place)
    (parts : List Text) (last : grown = (t.createFrom made place parts).1) (extended : Extends t s)
    (within : DirectoriesIn s grown) : DirectoriesIn (s.createFrom again place parts).1 grown := by
  induction parts generalizing t s made again place with
  | nil => exact within
  | cons part rest ih =>
      cases stepped : t.step place part with
      | error fault =>
          have same : grown = t := by rw [last, createFrom, stepped]
          cases onward : s.step place part with
          | error fault => rwa [createFrom, onward]
          | ok next =>
              -- a directory of `s` would be one of `t`
              have here := step_ok s place next part onward
              have there := same ▸ within.directories place here
              rw [step_eq s t place part here there, onward] at stepped
              cases stepped
      | ok next =>
          have here := extended.directories place (step_ok t place next part stepped)
          have onward : s.step place part = .ok next := by
            rw [step_eq t s place part (step_ok t place next part stepped) here, stepped]
          rw [createFrom, stepped] at last
          rw [createFrom, onward]
          rcases found : t.entryAt? next with _ | _ | content
          · simp only [found] at last
            have present : grown.entryAt? next = some .directory :=
              (last ▸ create_from_keeps _ true next rest).entries next _
                (entry_put_self t next .directory (by simp [found]))
            rcases standing : s.entryAt? next with _ | _ | content
            · have free : s.entryAt? next ≠ some .directory := by simp [standing]
              simp only [standing]
              refine ih _ _ true true next last ?_ (directories_put s grown next within present)
              exact extends_put_directory t _ next
                (extends_keeps t s _ extended (keeps_put s next .directory standing))
                (entry_put_self s next .directory free)
            · simp only [standing]
              exact ih _ s true again next last (extends_put_directory t s next extended standing)
                within
            · simpa only [standing] using within
          · simp only [found] at last
            simp only [extended.directories next found]
            exact ih t s made again next last extended within
          · obtain ⟨other, standing⟩ := extended.files next content found
            simpa only [standing] using within

/-- Whatever the tree is, making the directory of a file does nothing or goes along one path. -/
theorem create_parent_cases (path : Text) :
    (∀ t : FileTree, (t.createParent path).1 = t) ∨
      ∃ parent, ∀ t : FileTree,
        (t.createParent path).1 = (t.createFrom false (t.origin parent) (Path.parts parent)).1 := by
  cases named : (Path.parent? path).filter (!·.isEmpty) with
  | none => exact Or.inl fun t => by rw [createParent, named]
  | some parent =>
      have unfolded (t : FileTree) :
          (t.createParent path).1 = (t.createDirectories parent).1 := by rw [createParent, named]
      by_cases empty : parent.isEmpty = true
      · exact Or.inl fun t => by rw [unfolded, createDirectories, if_pos empty]
      · cases faulty : faultOf? parent with
        | some fault =>
            exact Or.inl fun t => by rw [unfolded, createDirectories, if_neg empty, faulty]
        | none =>
            exact Or.inr ⟨parent, fun t => by
              rw [unfolded, createDirectories, if_neg empty, faulty]⟩

section createParent

variable (t : FileTree) (path : Text)

theorem create_parent_keeps : Keeps t (t.createParent path).1 := by
  rcases create_parent_cases path with none | ⟨parent, made⟩
  · rw [none]
    exact keeps_refl t
  · rw [made]
    exact create_from_keeps t _ _ _

theorem create_parent_file (other : Place) (content : List UInt8)
    (present : (t.createParent path).1.entryAt? other = some (.file content)) :
    t.entryAt? other = some (.file content) := by
  rcases create_parent_cases path with none | ⟨parent, made⟩
  · rwa [none] at present
  · rw [made] at present
    exact create_from_file t _ _ _ other content present

theorem create_parent_again :
    ((t.createParent path).1.createParent path).1 = (t.createParent path).1 := by
  rcases create_parent_cases path with none | ⟨parent, made⟩
  · rw [none]
  · have start : (t.createParent path).1.origin parent = t.origin parent := by
      rw [origin, origin, (create_parent_keeps t path).start]
    rw [made, start, made, create_from_again]

theorem create_parent_within (s : FileTree) (extended : Extends t s)
    (within : DirectoriesIn s (t.createParent path).1) :
    DirectoriesIn (s.createParent path).1 (t.createParent path).1 := by
  rcases create_parent_cases path with none | ⟨parent, made⟩
  · rwa [none s]
  · have start : s.origin parent = t.origin parent := by
      rw [origin, origin, extended.start]
    rw [made s, start]
    exact create_from_within t s _ _ _ _ _ (made t) extended within

end createParent

theorem bare_path (path : Text) (unslashed : path.getLast? ≠ some '/') :
    path.dropEndWhile (· == '/') = path := by
  apply Text.drop_end_while_eq
  intro c last
  rw [beq_eq_false_iff_ne]
  rintro rfl
  exact unslashed last

theorem locate_file_ok (t : FileTree) (path : Text) (place : Place)
    (led : t.locateFile path = .ok place) :
    t.locate path = .ok place ∧ t.entryAt? place ≠ some .directory := by
  unfold locateFile at led
  dsimp only at led
  split at led
  · cases led
  · rename_i found
    split at led
    · cases led
    · rename_i plain
      obtain ⟨unslashed, free⟩ := not_or.mp plain
      obtain rfl := Except.ok.inj led
      rw [bare_path path unslashed, ite_self] at found
      exact ⟨found, free⟩

theorem content_at_cases (t : FileTree) (path : Text) (place : Place)
    (led : t.locate path = .ok place) :
    t.read path = .ok (t.contentAt place) ∨
      t.contentAt place = [] ∧ ∀ bytes, t.read path ≠ .ok bytes := by
  rw [contentAt]
  split
  · rename_i content present
    exact Or.inl ((t.read_ok_iff path content).mpr ⟨place, led, present⟩)
  · rename_i no_file
    refine Or.inr ⟨rfl, ?_⟩
    intro bytes read
    obtain ⟨other, again, present⟩ := (t.read_ok_iff path bytes).mp read
    obtain rfl := Except.ok.inj (again.symm.trans led)
    exact no_file bytes present

theorem write_ok (t s : FileTree) (path : Text) (content : List UInt8)
    (written : t.write path content = .ok s) :
    ∃ place, t.locate path = .ok place ∧ t.entryAt? place ≠ some .directory ∧
      s = t.put place (.file content) := by
  unfold write at written
  split at written
  · cases written
  · rename_i place led
    obtain ⟨found, free⟩ := locate_file_ok t path place led
    exact ⟨place, found, free, (Except.ok.inj written).symm⟩

theorem append_ok (t s : FileTree) (path : Text) (content : List UInt8)
    (written : t.append path content = .ok s) :
    ∃ place, t.locate path = .ok place ∧ t.entryAt? place ≠ some .directory ∧
      s = t.put place (.file (t.contentAt place ++ content)) := by
  unfold append at written
  split at written
  · cases written
  · rename_i place led
    obtain ⟨found, free⟩ := locate_file_ok t path place led
    exact ⟨place, found, free, (Except.ok.inj written).symm⟩

section put

variable (t : FileTree) (place : Place) (content : List UInt8)
  (free : t.entryAt? place ≠ some .directory)

include free

theorem put_file_directory (other : Place) :
    (t.put place (.file content)).entryAt? other = some .directory ↔
      t.entryAt? other = some .directory := by
  by_cases same : other = place
  · rw [same, entry_put_self t place _ free]
    simp [free]
  · rw [entry_put_other t place other _ same]

theorem read_put (path : Text) (led : t.locate path = .ok place) :
    (t.put place (.file content)).read path = .ok content := by
  have within : DirectoriesIn t (t.put place (.file content)) :=
    ⟨rfl, fun other => (put_file_directory t place content free other).mpr⟩
  exact (read_ok_iff _ path content).mpr
    ⟨place, locate_ok t _ within path place led, entry_put_self t place _ free⟩

end put

/-- In `s` there is what is in `t`, and besides no more than the file of the path and the directory
that is made for it. -/
structure Between (t : FileTree) (path : Text) (s : FileTree) : Prop where
  extended : Extends t s
  within : DirectoriesIn s (t.createParent path).1
  files : ∀ place content, s.entryAt? place = some (.file content) →
    (t.createParent path).1.entryAt? place = some (.file content) ∨
      (t.createParent path).1.locate path = .ok place

section Between

variable (t : FileTree) (path : Text)

theorem between_refl : Between t path t where
  extended := extends_refl t
  within := keeps_directories _ _ (create_parent_keeps t path)
  files place _ present := Or.inl ((create_parent_keeps t path).entries place _ present)

variable (s : FileTree) (between : Between t path s)

include between

theorem between_make : Between t path (s.createParent path).1 where
  extended := extends_keeps t s _ between.extended (create_parent_keeps s path)
  within := create_parent_within t path s between.extended between.within
  files place content present :=
    between.files place content (create_parent_file s path place content present)

theorem between_put (place : Place) (content : List UInt8) (led : s.locate path = .ok place)
    (free : s.entryAt? place ≠ some .directory) :
    Between t path (s.put place (.file content)) := by
  refine ⟨extends_put_file t s place content between.extended free, ⟨between.within.start, ?_⟩, ?_⟩
  · intro other present
    have standing := (put_file_directory s place content free other).mp present
    exact between.within.directories other standing
  · intro other found present
    by_cases same : other = place
    · exact Or.inr (same ▸ locate_ok s _ between.within path place led)
    · rw [entry_put_other s place other _ same] at present
      exact between.files other found present

theorem read_between (other : Text)
    (apart : ∀ place, (t.createParent path).1.locate other = .ok place →
      (t.createParent path).1.locate path ≠ .ok place)
    (concealed : ∀ bytes, (t.createParent path).1.read other = .ok bytes →
      t.read other = .ok bytes) (bytes : List UInt8) :
    s.read other = .ok bytes ↔ t.read other = .ok bytes := by
  have back (found : List UInt8) (read : s.read other = .ok found) : t.read other = .ok found := by
    obtain ⟨place, led, present⟩ := (read_ok_iff s other found).mp read
    have there := locate_ok s _ between.within other place led
    rcases between.files place found present with kept | written
    · exact concealed found ((read_ok_iff _ other found).mpr ⟨place, there, kept⟩)
    · exact absurd written (apart place there)
  constructor
  · exact back bytes
  · intro read
    obtain ⟨place, led, present⟩ := (read_ok_iff t other bytes).mp read
    obtain ⟨found, standing⟩ := between.extended.files place bytes present
    have within : DirectoriesIn t s := ⟨between.extended.start, between.extended.directories⟩
    have again : s.read other = .ok found :=
      (read_ok_iff s other found).mpr ⟨place, locate_ok t s within other place led, standing⟩
    obtain rfl := Except.ok.inj ((back found again).symm.trans read)
    exact again

end Between

end ContentFilter.FileTree
