import ContentFilter.Hiding
import Mathlib.Data.Finset.Card
/-!
Hiding in a document. Each selector takes its turn on what the turns before it have left, so that
an element goes at the turn of the first selector that selects it. In the end exactly the elements
are gone that some selector selected at the start, and a second run finds none of them.
-/
namespace ContentFilter

namespace Document

variable {Element : Type} [DecidableEq Element]

def Selects (d : Document Element) (selectors : List Text) (e : Element) : Prop :=
  ∃ selector ∈ selectors, (selector, e) ∈ d.entries

instance (d : Document Element) (selectors : List Text) (e : Element) :
    Decidable (d.Selects selectors e) :=
  inferInstanceAs (Decidable (∃ selector ∈ selectors, _))

def finder? (d : Document Element) (selectors : List Text) (e : Element) : Option Text :=
  selectors.find? fun selector => (selector, e) ∈ d.entries

def without (d : Document Element) (elements : List Element) : Document Element :=
  { d with entries := d.entries.filter (·.2 ∉ elements) }

omit [DecidableEq Element] in
theorem mem_find_all (d : Document Element) (selector : Text) (e : Element) :
    e ∈ d.findAll selector ↔ (selector, e) ∈ d.entries := by
  simp [findAll]

theorem count_find_all (d : Document Element) (selector : Text) (e : Element) :
    (d.findAll selector).count e = d.entries.count (selector, e) := by
  rw [findAll, List.count, List.countP_map, List.countP_filter, List.count]
  apply List.countP_congr
  intro entry _
  simp [Prod.ext_iff, and_comm]

theorem mem_without (d : Document Element) (elements : List Element) (entry : Text × Element) :
    entry ∈ (d.without elements).entries ↔ entry ∈ d.entries ∧ entry.2 ∉ elements := by
  simp [without]

theorem without_without (d : Document Element) (first second : List Element) :
    (d.without first).without second = d.without (first ++ second) := by
  rw [without, without, without, List.filter_filter]
  congr 2
  funext entry
  simp [Bool.and_comm]

theorem without_eq_self (d : Document Element) (elements : List Element)
    (absent : ∀ entry ∈ d.entries, entry.2 ∉ elements) : d.without elements = d := by
  have all : d.entries.filter (·.2 ∉ elements) = d.entries := by
    simpa [List.filter_eq_self] using absent
  rw [without, all]

theorem selects_without (d : Document Element) (elements : List Element) (selectors : List Text)
    (e : Element) :
    (d.without elements).Selects selectors e ↔ d.Selects selectors e ∧ e ∉ elements := by
  simp [Selects, mem_without, ← and_assoc, exists_and_right]

theorem count_without (d : Document Element) (elements : List Element) (selector : Text)
    (e : Element) (stays : e ∉ elements) :
    (d.without elements).entries.count (selector, e) = d.entries.count (selector, e) := by
  apply List.count_filter
  simpa using stays

theorem finder_without (d : Document Element) (elements : List Element) (selectors : List Text)
    (e : Element) (stays : e ∉ elements) :
    (d.without elements).finder? selectors e = d.finder? selectors e := by
  simp [finder?, mem_without, stays]

theorem remove_each (elements : List Element) (d : Document Element) :
    elements.foldl remove d = d.without elements := by
  induction elements generalizing d with
  | nil => exact (without_eq_self d [] (by simp)).symm
  | cons e rest ih =>
      have one : d.remove e = d.without [e] := by simp [remove, without]
      rw [List.foldl_cons, ih, one, without_without, List.singleton_append]

theorem remove_all_cons (d : Document Element) (selector : Text) (rest : List Text) :
    d.removeAll (selector :: rest) =
      (((d.without (d.findAll selector)).removeAll rest).1,
        d.findAll selector ++ ((d.without (d.findAll selector)).removeAll rest).2) := by
  rw [removeAll, removeSelected, remove_each]

theorem mem_removed (d : Document Element) (selectors : List Text) (e : Element) :
    e ∈ (d.removeAll selectors).2 ↔ d.Selects selectors e := by
  induction selectors generalizing d with
  | nil => simp [removeAll, Selects]
  | cons selector rest ih =>
      have parted : d.Selects (selector :: rest) e ↔
          e ∈ d.findAll selector ∨ d.Selects rest e := by
        simp [Selects, mem_find_all]
      rw [remove_all_cons, List.mem_append, ih, selects_without, parted]
      tauto

theorem remaining (d : Document Element) (selectors : List Text) :
    (d.removeAll selectors).1 = d.without (d.removeAll selectors).2 := by
  induction selectors generalizing d with
  | nil => exact (without_eq_self d [] (by simp)).symm
  | cons selector rest ih => rw [remove_all_cons, ih, without_without]

theorem remaining_entries (d : Document Element) (selectors : List Text) :
    (d.removeAll selectors).1.entries =
      d.entries.filter fun entry => ¬ d.Selects selectors entry.2 := by
  rw [remaining, without]
  apply List.filter_congr
  intro entry _
  simp only [mem_removed]

theorem nothing_left (d : Document Element) (selectors : List Text) :
    ∀ entry ∈ (d.removeAll selectors).1.entries, entry.1 ∉ selectors := by
  intro entry left hidden
  rw [remaining, mem_without, mem_removed] at left
  exact left.2 ⟨entry.1, hidden, left.1⟩

theorem remove_all_of_none (d : Document Element) (selectors : List Text)
    (none_selected : ∀ e, ¬ d.Selects selectors e) : d.removeAll selectors = (d, []) := by
  have nothing : (d.removeAll selectors).2 = [] := by
    apply List.eq_nil_iff_forall_not_mem.mpr
    intro e member
    exact none_selected e ((mem_removed d selectors e).mp member)
  apply Prod.ext
  · rw [remaining, nothing, without_eq_self d [] (by simp)]
  · exact nothing

theorem remove_all_again (d : Document Element) (selectors : List Text) :
    (d.removeAll selectors).1.removeAll selectors = ((d.removeAll selectors).1, []) := by
  apply remove_all_of_none
  intro e ⟨selector, hidden, left⟩
  exact nothing_left d selectors (selector, e) left hidden

theorem count_removed (d : Document Element) (selectors : List Text) (e : Element) :
    (d.removeAll selectors).2.count e =
      (d.finder? selectors e).elim 0 fun selector => d.entries.count (selector, e) := by
  induction selectors generalizing d with
  | nil => rfl
  | cons selector rest ih =>
      rw [remove_all_cons, List.count_append, count_find_all, finder?, List.find?_cons]
      by_cases found : (selector, e) ∈ d.entries
      -- the element goes at this turn, and no later selector sees it
      · have gone : e ∉ ((d.without (d.findAll selector)).removeAll rest).2 := by
          rw [mem_removed, selects_without, mem_find_all]
          exact fun both => both.2 found
        simp [found, List.count_eq_zero_of_not_mem gone]
      · have stays : e ∉ d.findAll selector := by rwa [mem_find_all]
        have counts : (fun selector' => (d.without (d.findAll selector)).entries.count
            (selector', e)) = fun selector' => d.entries.count (selector', e) := by
          funext other
          exact count_without d _ other e stays
        rw [ih, finder_without d _ rest e stays, counts, List.count_eq_zero_of_not_mem found,
          Nat.zero_add, finder?]
        simp [found]

theorem nodup_removed (d : Document Element) (selectors : List Text) (unique : d.entries.Nodup) :
    (d.removeAll selectors).2.Nodup := by
  apply List.nodup_iff_count_le_one.mpr
  intro e
  rw [count_removed]
  cases d.finder? selectors e with
  | none => exact Nat.zero_le 1
  | some selector => exact List.nodup_iff_count_le_one.mp unique (selector, e)

theorem length_removed (d : Document Element) (selectors : List Text) (unique : d.entries.Nodup) :
    (d.removeAll selectors).2.length =
      ((d.entries.filter fun entry => d.Selects selectors entry.2).map (·.2)).toFinset.card := by
  rw [← List.toFinset_card_of_nodup (nodup_removed d selectors unique)]
  congr 1
  ext e
  simp only [List.mem_toFinset, mem_removed, List.mem_map, List.mem_filter, decide_eq_true_eq]
  constructor
  · intro selected
    have ⟨selector, _, listed⟩ := selected
    exact ⟨(selector, e), ⟨listed, selected⟩, rfl⟩
  · intro ⟨entry, ⟨_, selected⟩, same⟩
    exact same ▸ selected

/-- Where the loop over selectors stands: what is left, the calls to `remove` that it has made, and
how many of them it has counted. -/
structure Sweep (Element : Type) where
  document : Document Element
  calls : List Element := []
  counted : Nat := 0
  deriving DecidableEq, Repr

namespace Sweep

def call (s : Sweep Element) (e : Element) : Sweep Element where
  document := s.document.remove e
  calls := s.calls ++ [e]
  counted := s.counted + 1

def turn (s : Sweep Element) (selector : Text) : Sweep Element :=
  (s.document.findAll selector).foldl call s

def run (d : Document Element) (selectors : List Text) : Sweep Element :=
  selectors.foldl turn { document := d }

theorem call_each (elements : List Element) (s : Sweep Element) :
    elements.foldl call s =
      { document := elements.foldl remove s.document, calls := s.calls ++ elements
        counted := s.counted + elements.length } := by
  induction elements generalizing s with
  | nil => simp
  | cons e rest ih => simp [ih, call, Nat.add_assoc, Nat.add_comm 1]

theorem turn_each (selectors : List Text) (s : Sweep Element) :
    selectors.foldl turn s =
      { document := (s.document.removeAll selectors).1
        calls := s.calls ++ (s.document.removeAll selectors).2
        counted := s.counted + (s.document.removeAll selectors).2.length } := by
  induction selectors generalizing s with
  | nil => simp [removeAll]
  | cons selector rest ih =>
      rw [List.foldl_cons, ih, turn, call_each, remove_all_cons, remove_each]
      simp [Nat.add_assoc]

theorem run_eq (d : Document Element) (selectors : List Text) :
    run d selectors =
      { document := (d.removeAll selectors).1, calls := (d.removeAll selectors).2
        counted := (d.removeAll selectors).2.length } := by
  simp [run, turn_each]

end Sweep

/-- Hiding leaves the entries of the elements that no hidden selector selects, and only those. It
makes as many calls as it counts, each for the first selector that finds the element, and a second
time it makes none. -/
theorem hidden_cleared (h : HidingStore) (host : Text) (d : Document Element) :
    (∀ entry ∈ (d.hide h host).1.entries, entry.1 ∉ h.selectorsFor host) ∧
    (d.hide h host).1.entries =
      d.entries.filter (fun entry => ¬ d.Selects (h.selectorsFor host) entry.2) ∧
    Sweep.run d (h.selectorsFor host) =
      { document := (d.hide h host).1, calls := (d.hide h host).2
        counted := (d.hide h host).2.length } ∧
    (∀ e, (d.hide h host).2.count e =
      (d.finder? (h.selectorsFor host) e).elim 0 fun selector => d.entries.count (selector, e)) ∧
    (d.entries.Nodup → (d.hide h host).2.Nodup ∧
      (d.hide h host).2.length = ((d.entries.filter fun entry =>
        d.Selects (h.selectorsFor host) entry.2).map (·.2)).toFinset.card) ∧
    (d.hide h host).1.hide h host = ((d.hide h host).1, []) := by
  refine ⟨?_, ?_, ?_, ?_, ?_, ?_⟩
  · exact nothing_left d _
  · exact remaining_entries d _
  · exact Sweep.run_eq d _
  · exact count_removed d _
  · intro unique
    exact ⟨nodup_removed d _ unique, length_removed d _ unique⟩
  · exact remove_all_again d _

section Page

def advertStore : HidingStore where
  generic := #[".ad".toList]
  perDomain := #[("example.com".toList, ".promo".toList), ("example.com".toList, ".box".toList)]
  exempt := #[("www.example.com".toList, ".box".toList)]

def advertPage : Document Nat where
  entries := [(".ad".toList, 1), (".promo".toList, 2), (".text".toList, 3), (".promo".toList, 1),
    (".text".toList, 2), (".box".toList, 5), (".ad".toList, 4)]

theorem advert_page_cleared :
    advertPage.entries.Nodup ∧
    advertPage.hide advertStore "www.example.com".toList =
      ({ entries := [(".text".toList, 3), (".box".toList, 5)] }, [1, 4, 2]) ∧
    (advertPage.hide advertStore "www.example.com".toList).2.Nodup := by
  have unique : advertPage.entries.Nodup := by decide
  refine ⟨unique, by decide, ?_⟩
  have ⟨_, _, _, _, once, _⟩ :=
    hidden_cleared advertStore "www.example.com".toList advertPage
  exact (once unique).1

end Page

end Document

end ContentFilter
