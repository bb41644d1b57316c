import ContentFilter.Host
import ContentFilter.Proofs.Host.Domains

namespace ContentFilter.Host

def IsNamed (host registered : Text) : Prop :=
  host = registered ∨ (¬ Registry.wwwPrefix <+: registered ∧ host = Registry.wwwPrefix ++ registered)

instance (host registered : Text) : Decidable (IsNamed host registered) :=
  inferInstanceAs (Decidable (_ ∨ _))

namespace Registry

/-- The registry came about by registering these hosts. -/
structure Holds (r : Registry) (hosts : List Text) : Prop where
  names : ∀ name, name ∈ r.names ↔ ∃ host ∈ hosts, name ∈ namesOf host
  size : r.size = hosts.length

theorem mem_names_of (name host : Text) : name ∈ namesOf host ↔ IsNamed name host := by
  unfold namesOf IsNamed
  by_cases prefixed : wwwPrefix <+: host
  · simp [List.isPrefixOf_iff_prefix.mpr prefixed, prefixed]
  · have other : wwwPrefix.isPrefixOf host = false := by
      rwa [Bool.eq_false_iff, ne_eq, List.isPrefixOf_iff_prefix]
    simp [other, prefixed, or_comm]

theorem holds_none (r : Registry) (names : r.names = []) (size : r.size = 0) : r.Holds [] :=
  ⟨by simp [names], size⟩

theorem holds_insert (r : Registry) (hosts : List Text) (host : Text) (holds : r.Holds hosts) :
    (r.insert host).Holds (hosts ++ [host]) := by
  constructor
  · intro name
    simp only [insert, List.mem_append, holds.names, List.mem_singleton]
    constructor
    · rintro (new | ⟨old, member, found⟩)
      · exact ⟨host, Or.inr rfl, new⟩
      · exact ⟨old, Or.inl member, found⟩
    · rintro ⟨old, member | rfl, found⟩
      · exact Or.inr ⟨old, member, found⟩
      · exact Or.inl found
  · simp [insert, holds.size]

@[simp] theorem insert_covers_subdomains (r : Registry) (host : Text) :
    (r.insert host).coversSubdomains = r.coversSubdomains := rfl

theorem named_is_under (name host : Text) (named : IsNamed name host) : IsUnder name host := by
  rcases named with rfl | ⟨-, rfl⟩
  · exact Or.inl rfl
  · exact Or.inr ⟨['w', 'w', 'w'], rfl⟩

theorem named_has_dot (name host : Text) (dotted : '.' ∈ host) (named : IsNamed name host) :
    '.' ∈ name := by
  rcases named with rfl | ⟨-, rfl⟩
  · exact dotted
  · exact List.mem_append_right _ dotted

theorem lookup_form_nil : lookupForm [] = [] := rfl

def Finds (wide : Bool) (asked name : Text) : Prop :=
  if wide then name ∈ suffixes (lookupForm asked) else name = lookupForm asked

theorem covers_iff (r : Registry) (asked : Text) :
    r.covers asked = true ↔ asked ≠ [] ∧ ∃ name ∈ r.names, Finds r.coversSubdomains asked name := by
  unfold covers
  split
  · rename_i early
    rcases Bool.or_eq_true _ _ |>.mp early with empty | empty
    · simp [List.isEmpty_iff.mp empty]
    · simp [List.isEmpty_iff.mp empty]
  · rename_i late
    have nonempty : asked ≠ [] := by
      rintro rfl
      exact late rfl
    cases wide : r.coversSubdomains with
    | false => simp [Finds, contains, nonempty]
    | true => simp [Finds, contains, nonempty, and_comm]

theorem covers_exact (r : Registry) (hosts : List Text) (holds : r.Holds hosts)
    (dotted : ∀ host ∈ hosts, '.' ∈ host) (exact : r.coversSubdomains = false) (asked : Text) :
    r.covers asked = true ↔ ∃ host ∈ hosts, IsNamed (lookupForm asked) host := by
  rw [covers_iff, exact]
  simp only [Finds, Bool.false_eq_true, ↓reduceIte, exists_eq_right, holds.names, mem_names_of]
  constructor
  · exact And.right
  · rintro ⟨host, registered, named⟩
    refine ⟨?_, host, registered, named⟩
    rintro rfl
    have hasDot := named_has_dot _ host (dotted host registered) named
    rw [lookup_form_nil] at hasDot
    cases hasDot

/-- Where subdomains are covered, the names with `www.` add nothing. -/
theorem covers_under (r : Registry) (hosts : List Text) (holds : r.Holds hosts)
    (dotted : ∀ host ∈ hosts, '.' ∈ host) (wide : r.coversSubdomains = true) (asked : Text) :
    r.covers asked = true ↔ ∃ host ∈ hosts, IsUnder (lookupForm asked) host := by
  rw [covers_iff, wide]
  simp only [Finds, ↓reduceIte, holds.names, mem_names_of]
  constructor
  · rintro ⟨-, domain, ⟨host, registered, named⟩, among⟩
    have hasDot := named_has_dot domain host (dotted host registered) named
    have above := (mem_suffixes_dotted _ _ hasDot).mp among
    exact ⟨host, registered, is_under_trans _ _ _ above (named_is_under domain host named)⟩
  · rintro ⟨host, registered, under⟩
    have among := (mem_suffixes_dotted _ _ (dotted host registered)).mpr under
    refine ⟨?_, host, ⟨host, registered, Or.inl rfl⟩, among⟩
    rintro rfl
    rw [lookup_form_nil] at among
    cases among

theorem covers_any (r : Registry) (hosts : List Text) (holds : r.Holds hosts) (asked : Text) :
    r.covers asked = hosts.any fun host =>
      (insert { coversSubdomains := r.coversSubdomains } host).covers asked := by
  rw [Bool.eq_iff_iff, List.any_eq_true]
  simp only [covers_iff, holds.names, insert, List.append_nil]
  constructor
  · rintro ⟨nonempty, name, ⟨host, member, named⟩, found⟩
    exact ⟨host, member, nonempty, name, named, found⟩
  · rintro ⟨host, member, nonempty, name, named, found⟩
    exact ⟨nonempty, name, ⟨host, member, named⟩, found⟩

theorem covers_alone (name : Text) (dotted : '.' ∈ name) (asked : Text) :
    (withSubdomains.insert name).covers asked = true ↔ IsUnder (lookupForm asked) name := by
  have holds : (withSubdomains.insert name).Holds [name] :=
    holds_insert withSubdomains [] name (holds_none _ rfl rfl)
  rw [covers_under _ [name] holds (by simpa using dotted) rfl]
  simp

def insertFilters (r : Registry) (filters : List Text) : Registry :=
  filters.foldl (fun r filter => (r.insertFilter? filter).getD r) r

section filters

variable (r : Registry) (filters : List Text)

theorem insert_filters_cons (filter : Text) :
    r.insertFilters (filter :: filters) =
      ((ofFilter? filter).elim r r.insert).insertFilters filters := by
  rw [insertFilters, List.foldl_cons, insertFilter?]
  cases ofFilter? filter <;> rfl

theorem holds_insert_filters (hosts : List Text) (holds : r.Holds hosts) :
    (r.insertFilters filters).Holds (hosts ++ filters.filterMap ofFilter?) := by
  induction filters generalizing r hosts with
  | nil => simpa [insertFilters] using holds
  | cons filter filters ih =>
      rw [insert_filters_cons, List.filterMap_cons]
      cases ofFilter? filter with
      | none => exact ih r hosts holds
      | some host =>
          have next := ih (r.insert host) (hosts ++ [host]) (holds_insert r hosts host holds)
          rwa [List.append_assoc, List.singleton_append] at next

theorem insert_filters_wide :
    (r.insertFilters filters).coversSubdomains = r.coversSubdomains := by
  induction filters generalizing r with
  | nil => rfl
  | cons filter filters ih =>
      rw [insert_filters_cons, ih]
      cases ofFilter? filter <;> rfl

end filters

theorem filter_hosts_dotted (filters : List Text) :
    ∀ host ∈ filters.filterMap ofFilter?, '.' ∈ host := by
  intro host registered
  obtain ⟨filter, -, found⟩ := List.mem_filterMap.mp registered
  exact of_filter_has_dot filter host found

def fresh (wide : Bool) : Registry := if wide then withSubdomains else exact

theorem holds_fresh (wide : Bool) (filters : List Text) :
    ((fresh wide).insertFilters filters).Holds (filters.filterMap ofFilter?) := by
  have empty : (fresh wide).Holds [] := by cases wide <;> exact holds_none _ rfl rfl
  exact holds_insert_filters (fresh wide) filters [] empty

theorem fresh_wide (wide : Bool) (filters : List Text) :
    ((fresh wide).insertFilters filters).coversSubdomains = wide := by
  rw [insert_filters_wide]
  cases wide <;> rfl

/-- Some of the hosts answers to the name that is asked for: one that it lies under, or else one
that has this name, with or without `www.` before it. -/
def Answered (wide : Bool) (hosts : List Text) (asked : Text) : Prop :=
  ∃ host ∈ hosts,
    if wide then IsUnder (lookupForm asked) host else IsNamed (lookupForm asked) host

instance (wide : Bool) (hosts : List Text) (asked : Text) : Decidable (Answered wide hosts asked) :=
  inferInstanceAs (Decidable (∃ host ∈ hosts, _))

theorem fresh_covers_iff (wide : Bool) (filters : List Text) (asked : Text) :
    ((fresh wide).insertFilters filters).covers asked = true ↔
      Answered wide (filters.filterMap ofFilter?) asked := by
  have holds := holds_fresh wide filters
  have dotted := filter_hosts_dotted filters
  cases wide with
  | true => exact covers_under _ _ holds dotted (fresh_wide true filters) asked
  | false => exact covers_exact _ _ holds dotted (fresh_wide false filters) asked

/-- A registry answers for the hosts of the filters that it has accepted and for no others, counts
these filters, and takes nothing from a filter that it refuses. Which filters it accepts does not
depend on what it has, and what it answers for not on the order or number of the filters. -/
theorem registered_hosts_answer (wide : Bool) (filters : List Text) :
    let r := (fresh wide).insertFilters filters
    let hosts := filters.filterMap ofFilter?
    (∀ asked, r.covers asked = true ↔ Answered wide hosts asked) ∧
      r.size = hosts.length ∧ (r.isEmpty = true ↔ hosts = []) ∧
      (∀ filter, (r.insertFilter? filter).isSome = (ofFilter? filter).isSome) ∧
      (∀ filter later, ofFilter? filter = none →
        r.insertFilters (filter :: later) = r.insertFilters later) ∧
      ∀ others, (∀ host, host ∈ others.filterMap ofFilter? ↔ host ∈ hosts) →
        ∀ asked, ((fresh wide).insertFilters others).covers asked = r.covers asked := by
  intro r hosts
  have size : r.size = hosts.length := (holds_fresh wide filters).size
  refine ⟨fresh_covers_iff wide filters, size, ?_, ?_, ?_, ?_⟩
  · rw [isEmpty, size, beq_iff_eq, List.length_eq_zero_iff]
  · intro filter
    rw [insertFilter?, Option.isSome_map]
  · intro filter later refused
    rw [insert_filters_cons, refused]
    rfl
  · intro others same asked
    rw [Bool.eq_iff_iff, fresh_covers_iff, fresh_covers_iff]
    exact exists_congr fun host => and_congr_left' (same host)

def mixedFilters : List Text :=
  ["||a.example^".toList, "/ads/".toList, "@@||www.b.example^".toList]

def reorderedFilters : List Text :=
  ["0.0.0.0 WWW.b.example".toList, "||A.example^".toList, "||a.example^".toList]

theorem reordered_filters_answer :
    (exact.insertFilters mixedFilters).covers "WWW.A.Example.".toList = true ∧
      (exact.insertFilters mixedFilters).covers "b.example".toList = false ∧
      (exact.insertFilters mixedFilters).size = 2 ∧
      ∀ asked, (exact.insertFilters reorderedFilters).covers asked =
        (exact.insertFilters mixedFilters).covers asked := by
  obtain ⟨answers, size, -, -, -, depends⟩ := registered_hosts_answer false mixedFilters
  refine ⟨(answers _).mpr (by decide), ?_, size, ?_⟩
  · rw [Bool.eq_false_iff]
    exact mt (answers _).mp (by decide)
  · apply depends
    have first : mixedFilters.filterMap ofFilter? =
        ["a.example".toList, "www.b.example".toList] := by decide
    have second : reorderedFilters.filterMap ofFilter? =
        ["www.b.example".toList, "a.example".toList, "a.example".toList] := by decide
    intro host
    rw [first, second]
    simp only [List.mem_cons, List.not_mem_nil, or_false]
    tauto

end Registry

end ContentFilter.Host
