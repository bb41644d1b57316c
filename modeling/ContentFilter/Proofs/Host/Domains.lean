import ContentFilter.Host
import ContentFilter.Proofs.Text.Cuts

namespace ContentFilter.Host

open Text

theorem labels_induction {motive : Text → Prop}
    (single : ∀ label, '.' ∉ label → motive label)
    (more : ∀ label rest, '.' ∉ label → motive rest → motive (label ++ '.' :: rest))
    (host : Text) : motive host :=
  parted_induction '.' single more host

theorem parents_label (label rest : Text) (dotless : '.' ∉ label) :
    parents (label ++ '.' :: rest) = if '.' ∈ rest then rest :: parents rest else parents rest := by
  induction label with
  | nil => simp [parents]
  | cons c label ih =>
      have differs : c ≠ '.' := fun same => dotless (same ▸ List.mem_cons_self)
      rw [List.cons_append, parents, if_neg fun both => differs both.1]
      exact ih fun member => dotless (List.mem_cons_of_mem c member)

theorem parents_single (label : Text) (dotless : '.' ∉ label) : parents label = [] := by
  induction label with
  | nil => rfl
  | cons c label ih =>
      have differs : c ≠ '.' := fun same => dotless (same ▸ List.mem_cons_self)
      rw [parents, if_neg fun both => differs both.1]
      exact ih fun member => dotless (List.mem_cons_of_mem c member)

def extended (domain : Text) (labels : List Text) : Text :=
  labels.foldl (fun domain label => label ++ '.' :: domain) domain

theorem extend_append (domain label : Text) (labels : List Text) :
    extend domain (labels ++ [label]) =
      extend domain labels ++ [label ++ '.' :: extended domain labels] := by
  induction labels generalizing domain with
  | nil => simp [extend, extended]
  | cons first labels ih =>
      rw [List.cons_append, extend, ih, extend, List.cons_append]
      rfl

theorem extended_labels (host : Text) :
    ∃ label labels, (host.splitAll '.').reverse = label :: labels ∧
      extended label labels = host ∧ (labels = [] ↔ '.' ∉ host) := by
  induction host using labels_induction with
  | single label dotless =>
      exact ⟨label, [], by simp [split_all_whole '.' label dotless], rfl, by simp [dotless]⟩
  | more label rest dotless ih =>
      obtain ⟨last, labels, cut, whole, -⟩ := ih
      refine ⟨last, labels ++ [label], ?_, ?_, by simp⟩
      · rw [split_all_append '.' label rest dotless, List.reverse_cons, cut, List.cons_append]
      · rw [extended, List.foldl_append]
        change label ++ '.' :: extended last labels = label ++ '.' :: rest
        rw [whole]

theorem chain_single (label : Text) (dotless : '.' ∉ label) :
    chain label = if label.isEmpty then [] else [label] := by
  rw [chain, split_all_whole '.' label dotless]
  rfl

/-- One more label at the front is one more domain, after those of the rest of the host. A single
label counts as a domain only where it is the whole host. -/
theorem chain_label (label rest : Text) (dotless : '.' ∉ label) :
    chain (label ++ '.' :: rest) =
      (if '.' ∈ rest then chain rest else []) ++ [label ++ '.' :: rest] := by
  obtain ⟨last, labels, cut, whole, alone⟩ := extended_labels rest
  have labelled : ((label ++ '.' :: rest).splitAll '.').reverse = last :: (labels ++ [label]) := by
    rw [split_all_append '.' label rest dotless, List.reverse_cons, cut, List.cons_append]
  have extension : chain (label ++ '.' :: rest) = extend last (labels ++ [label]) := by
    rw [chain, labelled]
    cases labels <;> rfl
  rw [extension, extend_append, whole]
  cases labels with
  | nil => simp [alone.mp rfl, extend]
  | cons first labels =>
      have dotted : '.' ∈ rest := by
        by_contra dotfree
        simp [dotfree] at alone
      rw [if_pos dotted, chain, cut]

theorem suffixes_of_ne_nil (host : Text) (some_host : host ≠ []) :
    suffixes host = host :: parents host := by
  cases host with
  | nil => exact absurd rfl some_host
  | cons c r => rfl

theorem chain_eq_reverse (host : Text) : chain host = (suffixes host).reverse := by
  induction host using labels_induction with
  | single label dotless =>
      rw [chain_single label dotless]
      cases label with
      | nil => rfl
      | cons c label => simp [suffixes, parents_single _ dotless]
  | more label rest dotless ih =>
      rw [chain_label label rest dotless, suffixes_of_ne_nil _ (by simp), List.reverse_cons,
        parents_label label rest dotless]
      by_cases dotted : '.' ∈ rest
      · rw [if_pos dotted, if_pos dotted, ih]
        cases rest with
        | nil => simp at dotted
        | cons c rest => rfl
      · rw [if_neg dotted, if_neg dotted, parents_single rest dotted]
        rfl

theorem mem_parents (host domain : Text) :
    domain ∈ parents host ↔ '.' ∈ domain ∧ ('.' :: domain) <:+ host := by
  induction host with
  | nil => simp [parents]
  | cons c r ih =>
      have tail : ('.' :: domain) <:+ (c :: r) ↔
          (c = '.' ∧ domain = r) ∨ ('.' :: domain) <:+ r := by
        rw [List.suffix_cons_iff, List.cons_eq_cons, eq_comm]
      rw [parents, tail]
      split
      · rename_i dot
        rw [List.mem_cons, ih]
        grind
      · rw [ih]
        grind

theorem mem_suffixes (host domain : Text) :
    domain ∈ suffixes host ↔
      host ≠ [] ∧ (domain = host ∨ '.' ∈ domain ∧ ('.' :: domain) <:+ host) := by
  cases host with
  | nil => simp [suffixes]
  | cons c r => simp [suffixes, mem_parents]

/-- The host is the domain or, where that is more than a top-level label, one of its subdomains. -/
def IsWithin (host domain : Text) : Prop :=
  host = domain ∨ '.' ∈ domain ∧ ('.' :: domain) <:+ host

instance (host domain : Text) : Decidable (IsWithin host domain) :=
  inferInstanceAs (Decidable (_ ∨ _))

theorem mem_suffixes_within (host domain : Text) (some_domain : domain ≠ []) :
    domain ∈ suffixes host ↔ IsWithin host domain := by
  rw [mem_suffixes, IsWithin, eq_comm]
  apply and_iff_right_of_imp
  intro within no_host
  rw [no_host, List.suffix_nil] at within
  rcases within with whole | ⟨-, below⟩
  · exact some_domain whole.symm
  · cases below

/-- A host that is within a domain is under it; and for a domain with a dot that is the same. -/
theorem is_under_of_within (host domain : Text) (within : IsWithin host domain) :
    IsUnder host domain :=
  within.imp id And.right

theorem is_within_dotted (host domain : Text) (dotted : '.' ∈ domain) :
    IsWithin host domain ↔ IsUnder host domain :=
  or_congr_right (and_iff_right dotted)

theorem mem_suffixes_dotted (host domain : Text) (dotted : '.' ∈ domain) :
    domain ∈ suffixes host ↔ IsUnder host domain := by
  rw [mem_suffixes_within host domain (List.ne_nil_of_mem dotted), is_within_dotted _ _ dotted]

theorem mem_chain_dotted (host domain : Text) (dotted : '.' ∈ domain) :
    domain ∈ chain host ↔ IsUnder host domain := by
  rw [chain_eq_reverse, List.mem_reverse, mem_suffixes_dotted host domain dotted]

theorem is_under_trans (host domain above : Text) (first : IsUnder host domain)
    (second : IsUnder domain above) : IsUnder host above := by
  rcases first with rfl | below
  · exact second
  · rcases second with rfl | further
    · exact Or.inr below
    · exact Or.inr (further.trans ((List.suffix_cons _ _).trans below))

theorem dotted_has_dot (written name : Text) (found : dotted? written = some name) :
    '.' ∈ name := by
  simpa using (Option.filter_eq_some_iff.mp found).2

theorem of_filter_has_dot (filter name : Text) (found : ofFilter? filter = some name) :
    '.' ∈ name := by
  unfold ofFilter? at found
  dsimp only at found
  split at found
  · simp at found
  · split at found
    · split at found
      · split at found
        · simp at found
        · exact dotted_has_dot _ name found
      · simp at found
    · unfold ofHostsLine? at found
      split at found
      · split at found
        · exact dotted_has_dot _ name found
        · simp at found
      · simp at found

end ContentFilter.Host
