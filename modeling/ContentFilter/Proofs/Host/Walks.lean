import ContentFilter.Proofs.Host.Domains
/-!
The two ways to go through the domains of a host. Label by label from its front each domain is the
parent of the one before, from its end a domain begins behind every dot but the last one. One way
gives the domains in the opposite order of the other: the host itself and all that is left of it
behind a dot and has a dot still, each once and the longest first.
-/
namespace ContentFilter.Host

/-- The domains that are passed on the way from the end of a host to its front. What has been passed
already is `behind`, the rest is read backwards. -/
def passed (behind : Text) : Text → List Text
  | [] => []
  | c :: before =>
    if c = '.' ∧ '.' ∈ behind then behind :: passed (c :: behind) before
    else passed (c :: behind) before

theorem passed_append (behind first second : Text) :
    passed behind (first ++ second) =
      passed behind first ++ passed (first.reverse ++ behind) second := by
  induction first generalizing behind with
  | nil => rfl
  | cons c first ih =>
      have onward : (c :: first).reverse ++ behind = first.reverse ++ c :: behind := by simp
      rw [List.cons_append, passed, passed, ih, onward]
      split <;> rfl

theorem passed_eq_reverse (host : Text) : passed [] host.reverse = (parents host).reverse := by
  induction host with
  | nil => rfl
  | cons c r ih =>
      rw [List.reverse_cons, passed_append, ih, List.reverse_reverse, List.append_nil, parents]
      by_cases domain : c = '.' ∧ '.' ∈ r
      · rw [if_pos domain, List.reverse_cons, passed, if_pos domain, passed]
      · rw [if_neg domain, passed, if_neg domain, passed, List.append_nil]

theorem suffixes_eq_nil (host : Text) : suffixes host = [] ↔ host = [] := by
  cases host <;> simp [suffixes]

theorem parent_single (label : Text) (dotless : '.' ∉ label) : parent? label = none := by
  induction label with
  | nil => rfl
  | cons c label ih =>
      have differs : c ≠ '.' := fun same => dotless (same ▸ List.mem_cons_self)
      rw [parent?, if_neg differs]
      exact ih fun member => dotless (List.mem_cons_of_mem c member)

theorem parent_label (label rest : Text) (dotless : '.' ∉ label) :
    parent? (label ++ '.' :: rest) = if rest.isEmpty then none else some rest := by
  induction label with
  | nil => rw [List.nil_append, parent?, if_pos rfl]
  | cons c label ih =>
      have differs : c ≠ '.' := fun same => dotless (same ▸ List.mem_cons_self)
      rw [List.cons_append, parent?, if_neg differs]
      exact ih fun member => dotless (List.mem_cons_of_mem c member)

theorem parents_eq_suffixes (host : Text) :
    parents host = ((parent? host).filter fun domain => '.' ∈ domain).elim [] suffixes := by
  induction host using labels_induction with
  | single label dotless =>
      rw [parents_single label dotless, parent_single label dotless]
      rfl
  | more label rest dotless ih =>
      rw [parents_label label rest dotless, parent_label label rest dotless]
      by_cases dotted : '.' ∈ rest
      · have some_rest : rest ≠ [] := List.ne_nil_of_mem dotted
        rw [if_pos dotted, if_neg (by simpa using some_rest), Option.filter_some,
          if_pos (by simpa using dotted), Option.elim_some, suffixes_of_ne_nil rest some_rest]
      · rw [if_neg dotted, parents_single rest dotted]
        split
        · rfl
        · rw [Option.filter_some, if_neg (by simpa using dotted), Option.elim_none]

theorem suffixes_descend (host : Text) :
    (suffixes host).Pairwise fun above below => below.length < above.length := by
  have shorter (r domain : Text) (member : domain ∈ parents r) : domain.length < r.length := by
    have fits := ((mem_parents r domain).mp member).2.length_le
    rwa [List.length_cons] at fits
  have behind (r : Text) :
      (parents r).Pairwise fun above below => below.length < above.length := by
    induction r with
    | nil => exact List.Pairwise.nil
    | cons c r ih =>
        rw [parents]
        split
        · exact List.pairwise_cons.mpr ⟨shorter r, ih⟩
        · exact ih
  cases host with
  | nil => exact List.Pairwise.nil
  | cons c r => exact List.pairwise_cons.mpr ⟨shorter _, behind _⟩

/-- From the end to the front a host has the same domains as from its front to the end, in opposite
order, and each is passed once. -/
theorem walks_mirror_each_other (host : Text) :
    chain host = (suffixes host).reverse ∧
      (suffixes host = [] ↔ host = []) ∧
      (host ≠ [] →
        chain host = passed [] host.reverse ++ [host] ∧
          ∃ behind, suffixes host = host :: behind ∧
            behind = ((parent? host).filter fun domain => '.' ∈ domain).elim [] suffixes ∧
            (host :: behind).Pairwise (fun above below => below.length < above.length) ∧
            (host :: behind).Nodup ∧
            ∀ domain, domain ∈ behind ↔ '.' ∈ domain ∧ ('.' :: domain) <:+ host) := by
  refine ⟨chain_eq_reverse host, suffixes_eq_nil host, ?_⟩
  intro some_host
  have whole := suffixes_of_ne_nil host some_host
  have descending := suffixes_descend host
  rw [whole] at descending
  refine ⟨?_, parents host, whole, parents_eq_suffixes host, descending, ?_, mem_parents host⟩
  · rw [chain_eq_reverse, whole, List.reverse_cons, passed_eq_reverse]
  · refine descending.imp ?_
    rintro above below shorter rfl
    exact absurd shorter (Nat.lt_irrefl _)

example : suffixes "a..b.".toList = ["a..b.".toList, ".b.".toList, "b.".toList] ∧
    chain "a..b.".toList = ["b.".toList, ".b.".toList, "a..b.".toList] := by decide

end ContentFilter.Host
