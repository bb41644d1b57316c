import ContentFilter.Proofs.Regex.LetterCase
import ContentFilter.Regex.Reader
/-!
Expressions that are read while case is ignored. As long as no flag in the text turns that off, or
Unicode, every element that is read keeps the letters of a class together: so each step of reading
preserves that all pieces so far do, and the whole expression does.
-/
namespace ContentFilter.Regex

namespace Reader

def Flags.foldsAll (flags : Flags) : Bool := flags.ignoreCase && flags.unicode

def State.foldsCase : Nat → State → Text → Bool
  | 0, _, _ => true
  | fuel + 1, st, s =>
    match skip st.flags.verbose s with
    | [] => true
    | c :: r =>
      st.flags.foldsAll &&
        match st.step c r with
        | some (st', rest) => st'.foldsCase fuel rest
        | none => true

def Atom.IsCaseless : Atom → Prop
  | literal _ _ => True
  | set s => s.IsCaseless
  | look assertion => assertion.IsCaseless

theorem negate_caseless (flags : Flags) (negated : Bool) (s s' : CharSet)
    (found : flags.negate negated s = some s') (caseless : s.IsCaseless) : s'.IsCaseless := by
  rw [Flags.negate] at found
  split at found
  · rwa [← Option.some.inj found]
  · split at found
    · rw [← Option.some.inj found]
      exact CharSet.caseless_compl s caseless
    · cases found

theorem dot_caseless (flags : Flags) : flags.dot.IsCaseless := by
  have feed := CharSet.caseless_sign '\n' (by decide) (by decide)
  have turn := CharSet.caseless_sign '\r' (by decide) (by decide)
  rw [Flags.dot]
  split
  · exact CharSet.caseless_any
  · split
    · exact CharSet.caseless_compl _ (CharSet.caseless_union _ _ turn feed)
    · exact CharSet.caseless_compl _ feed

theorem line_start_caseless (flags : Flags) : flags.lineStart.IsCaseless := by
  rw [Flags.lineStart]
  split
  · trivial
  · split <;> trivial

theorem line_end_caseless (flags : Flags) : flags.lineEnd.IsCaseless := by
  rw [Flags.lineEnd]
  split
  · trivial
  · split <;> trivial

section flags

variable {flags : Flags} (folds : flags.foldsAll = true)

include folds

theorem fold_caseless (s : CharSet) : (flags.fold s).IsCaseless := by
  obtain ⟨ignores, unicode⟩ := Bool.and_eq_true_iff.mp folds
  rw [Flags.fold, if_pos ignores, Flags.folding, if_pos unicode]
  exact CharSet.caseless_folded s

theorem word_letters_caseless : flags.wordLetters.IsCaseless := by
  rw [Flags.wordLetters, if_pos (Bool.and_eq_true_iff.mp folds).2]
  exact CharSet.caseless_word

theorem letter_class_caseless (c : Char) (s : CharSet) (found : letterClass? flags c = some s) :
    s.IsCaseless := by
  have unicode := (Bool.and_eq_true_iff.mp folds).2
  unfold letterClass? at found
  split at found
  · rw [if_pos unicode] at found
    exact Option.some.inj found ▸ CharSet.caseless_digit
  · rw [if_pos unicode] at found
    exact Option.some.inj found ▸ CharSet.caseless_space
  · exact Option.some.inj found ▸ word_letters_caseless folds
  · cases found

theorem property_caseless (negated : Bool) (s rest : Text) (set : CharSet)
    (found : readProperty flags negated s = some (set, rest)) : set.IsCaseless := by
  have unicode := (Bool.and_eq_true_iff.mp folds).2
  have negation (named : Option ((CharSet × Bool) × Text))
      (made : (named.bind fun x => (flags.negate (negated != x.1.2) (flags.fold x.1.1)).map
        (·, x.2)) = some (set, rest)) : set.IsCaseless := by
    obtain ⟨⟨⟨property, no⟩, left⟩, -, made⟩ := Option.bind_eq_some_iff.mp made
    obtain ⟨folded, negated, pair⟩ := Option.map_eq_some_iff.mp made
    obtain ⟨rfl, -⟩ := Prod.mk.inj pair
    exact negate_caseless flags _ _ folded negated (fold_caseless folds property)
  unfold readProperty at found
  simp only [unicode, Bool.not_true, Bool.false_eq_true, if_false] at found
  split at found
  · split at found
    · exact negation _ found
    · cases found
  · split at found
    · cases found
    · exact negation _ found
  · cases found

theorem escape_caseless (s rest : Text) (atom : Atom)
    (found : readEscape flags s = some (atom, rest)) : atom.IsCaseless := by
  have word := word_letters_caseless folds
  have literal (read : Option (Char × Text)) (byte : Bool)
      (made : (read.map fun found => (Atom.literal found.1 byte, found.2)) = some (atom, rest)) :
      atom.IsCaseless := by
    obtain ⟨⟨d, left⟩, -, pair⟩ := Option.map_eq_some_iff.mp made
    obtain ⟨rfl, -⟩ := Prod.mk.inj pair
    trivial
  have property (negated : Bool) (r : Text)
      (made : ((readProperty flags negated r).map fun found => (Atom.set found.1, found.2)) =
        some (atom, rest)) : atom.IsCaseless := by
    obtain ⟨⟨set, left⟩, read, pair⟩ := Option.map_eq_some_iff.mp made
    obtain ⟨rfl, -⟩ := Prod.mk.inj pair
    exact property_caseless folds negated r left set read
  have look (assertion : Look) (r : Text)
      (made : some (Atom.look assertion, r) = some (atom, rest))
      (caseless : assertion.IsCaseless) : atom.IsCaseless := by
    obtain ⟨rfl, -⟩ := Prod.mk.inj (Option.some.inj made)
    exact caseless
  -- one case for each escape, in the order in which they are told apart
  unfold readEscape at found
  split at found
  · cases found
  · split at found
    · exact literal _ _ found
    · exact literal _ _ found
    · exact literal _ _ found
    · exact property _ _ found
    · exact property _ _ found
    · exact look _ _ found trivial
    · exact look _ _ found trivial
    · obtain ⟨⟨side, left⟩, -, pair⟩ := Option.map_eq_some_iff.mp found
      obtain ⟨rfl, -⟩ := Prod.mk.inj pair
      exact word
    · exact look _ _ found word
    · exact look _ _ found word
    · exact look _ _ found word
    · split at found
      · obtain ⟨rfl, -⟩ := Prod.mk.inj (Option.some.inj found)
        trivial
      · split at found
        · obtain ⟨rfl, -⟩ := Prod.mk.inj (Option.some.inj found)
          trivial
        · rename_i letters _ listed
          obtain ⟨set, negated, pair⟩ := Option.map_eq_some_iff.mp found
          obtain ⟨rfl, -⟩ := Prod.mk.inj pair
          exact negate_caseless flags _ _ set negated (letter_class_caseless folds _ _ listed)
        · cases found

theorem atom_caseless (atom : Atom) (caseless : atom.IsCaseless) (regex : Regex)
    (found : flags.atom? atom = some regex) : regex.IsCaseless := by
  cases atom with
  | literal c byte =>
      rw [Flags.atom?] at found
      split at found
      · rw [← Option.some.inj found]
        exact fold_caseless folds (.single c)
      · cases found
  | set s => exact Option.some.inj found ▸ caseless
  | look assertion => exact Option.some.inj found ▸ caseless

theorem close_caseless (st : ClassState) (part : ClassPart)
    (found : st.close flags = some (.inl part)) : part.set.IsCaseless := by
  unfold ClassState.close at found
  dsimp only at found
  split at found
  · rename_i outer negated frames _
    obtain ⟨set, negated, made⟩ := Option.map_eq_some_iff.mp found
    split at made
    · obtain rfl := Sum.inl.inj made
      exact negate_caseless flags _ _ set negated (fold_caseless folds _)
    · cases made
  · cases found

theorem class_step_caseless (st : ClassState) (s rest : Text) (part : ClassPart)
    (found : st.step flags s = some (.inl part, rest)) : part.set.IsCaseless := by
  unfold ClassState.step at found
  split at found
  · cases found
  · obtain ⟨closed, complete, pair⟩ := Option.map_eq_some_iff.mp found
    obtain ⟨rfl, -⟩ := Prod.mk.inj pair
    exact close_caseless folds st part complete
  · split at found
    · obtain ⟨_, -, pair⟩ := Option.map_eq_some_iff.mp found
      cases pair
    · obtain ⟨_, -, pair⟩ := Option.map_eq_some_iff.mp found
      cases pair
  · cases found
  · cases found
  · cases found
  · obtain ⟨_, -, pair⟩ := Option.map_eq_some_iff.mp found
    cases pair

theorem class_run_caseless (fuel : Nat) (st : ClassState) (s rest : Text) (part : ClassPart)
    (found : st.run flags fuel s = some (part, rest)) : part.set.IsCaseless := by
  induction fuel generalizing st s with
  | zero => cases found
  | succ fuel ih =>
      rw [ClassState.run] at found
      split at found
      · rename_i complete stepped
        obtain ⟨rfl, -⟩ := Prod.mk.inj (Option.some.inj found)
        exact class_step_caseless folds st _ _ _ stepped
      · exact ih _ _ found
      · cases found

theorem class_caseless (s rest : Text) (part : ClassPart)
    (found : readClass flags s = some (part, rest)) : part.set.IsCaseless := by
  obtain ⟨⟨negated, parts, left⟩, -, run⟩ := Option.bind_eq_some_iff.mp found
  exact class_run_caseless folds _ _ left rest part run

end flags

structure Branches.IsCaseless (b : Branches) : Prop where
  alternatives : ∀ p ∈ b.alternatives, p.regex.IsCaseless
  pieces : ∀ p ∈ b.pieces, p.regex.IsCaseless

/-- All that is read so far keeps classes together, in the groups around as well. -/
structure State.IsCaseless (st : State) : Prop where
  branches : st.branches.IsCaseless
  outer : ∀ o ∈ st.outer, o.branches.IsCaseless

theorem regexes_caseless (pieces : List Piece) (caseless : ∀ p ∈ pieces, p.regex.IsCaseless) :
    ∀ r ∈ pieces.reverse.map (·.regex), r.IsCaseless := by
  intro r member
  obtain ⟨piece, among, rfl⟩ := List.mem_map.mp member
  exact caseless piece (List.mem_reverse.mp among)

theorem sequence_caseless (pieces : List Piece) (caseless : ∀ p ∈ pieces, p.regex.IsCaseless) :
    (sequence pieces).regex.IsCaseless := by
  match pieces with
  | [] => trivial
  | [piece] => exact caseless piece List.mem_cons_self
  | _ :: _ :: _ => exact seq_all_caseless _ (regexes_caseless _ caseless)

theorem finish_caseless (b : Branches) (caseless : b.IsCaseless) :
    b.finish.regex.IsCaseless := by
  have all : ∀ p ∈ sequence b.pieces :: b.alternatives, p.regex.IsCaseless :=
    List.forall_mem_cons.mpr ⟨sequence_caseless b.pieces caseless.pieces, caseless.alternatives⟩
  rw [Branches.finish]
  split
  · rename_i piece only
    exact all piece (only ▸ List.mem_cons_self)
  · exact alt_all_caseless _ (regexes_caseless _ all)

theorem nothing_caseless : Branches.IsCaseless {} := ⟨by simp, by simp⟩

section state

variable {st : State} (caseless : st.IsCaseless)

include caseless

theorem push_caseless (piece : Piece) (kept : piece.regex.IsCaseless) :
    (st.push piece).IsCaseless where
  branches := ⟨caseless.branches.alternatives,
    List.forall_mem_cons.mpr ⟨kept, caseless.branches.pieces⟩⟩
  outer := caseless.outer

theorem alternate_caseless : st.alternate.IsCaseless where
  branches := ⟨List.forall_mem_cons.mpr ⟨sequence_caseless _ caseless.branches.pieces,
    caseless.branches.alternatives⟩, nothing_caseless.pieces⟩
  outer := caseless.outer

theorem open_group_caseless (flags : Flags) (number : Option Nat) :
    (st.openGroup flags number).IsCaseless where
  branches := nothing_caseless
  outer := List.forall_mem_cons.mpr ⟨caseless.branches, caseless.outer⟩

theorem close_group_caseless (st' : State) (closed : st.closeGroup = some st') :
    st'.IsCaseless := by
  rw [State.closeGroup] at closed
  split at closed
  · cases closed
  · rename_i outer rest around
    have kept := caseless.outer
    rw [around] at kept
    obtain ⟨first, later⟩ := List.forall_mem_cons.mp kept
    rw [← Option.some.inj closed]
    exact push_caseless ⟨first, later⟩ _ (finish_caseless _ caseless.branches)

theorem repeated_caseless (least : Nat) (extra : Option Nat) (greedy : Bool) (st' : State)
    (found : st.repeated least extra greedy = some st') : st'.IsCaseless := by
  rw [State.repeated] at found
  split at found
  · rename_i piece pieces newest
    have kept := caseless.branches.pieces
    rw [newest] at kept
    obtain ⟨first, later⟩ := List.forall_mem_cons.mp kept
    split at found
    · cases found
    · rw [← Option.some.inj found]
      exact ⟨⟨caseless.branches.alternatives, List.forall_mem_cons.mpr ⟨first, later⟩⟩,
        caseless.outer⟩
  · cases found

theorem repeat_before_caseless (least : Nat) (extra : Option Nat) (s rest : Text) (st' : State)
    (found : st.repeatBefore least extra s = some (st', rest)) : st'.IsCaseless := by
  unfold State.repeatBefore at found
  split at found
  · obtain ⟨_, made, pair⟩ := Option.map_eq_some_iff.mp found
    obtain ⟨rfl, -⟩ := Prod.mk.inj pair
    exact repeated_caseless caseless least extra _ _ made
  · obtain ⟨_, made, pair⟩ := Option.map_eq_some_iff.mp found
    obtain ⟨rfl, -⟩ := Prod.mk.inj pair
    exact repeated_caseless caseless least extra _ _ made

theorem open_named_caseless (s rest : Text) (st' : State)
    (found : st.openNamed s = some (st', rest)) : st'.IsCaseless := by
  unfold State.openNamed at found
  split at found
  · split at found
    · obtain ⟨rfl, -⟩ := Prod.mk.inj (Option.some.inj found)
      exact ⟨nothing_caseless, (open_group_caseless caseless st.flags _).outer⟩
    · cases found
  · cases found

theorem parenthesis_caseless (s rest : Text) (st' : State)
    (found : st.parenthesis s = some (st', rest)) : st'.IsCaseless := by
  unfold State.parenthesis at found
  dsimp only at found
  split at found
  · cases found
  · split at found
    · exact open_named_caseless caseless _ rest st' found
    · exact open_named_caseless caseless _ rest st' found
    · split at found
      · cases found
      · split at found
        · obtain ⟨rfl, -⟩ := Prod.mk.inj (Option.some.inj found)
          exact open_group_caseless caseless _ none
        · split at found
          · cases found
          · obtain ⟨rfl, -⟩ := Prod.mk.inj (Option.some.inj found)
            have pushed := push_caseless caseless { regex := .empty, repeatable := false } trivial
            exact ⟨pushed.branches, pushed.outer⟩
    · obtain ⟨rfl, -⟩ := Prod.mk.inj (Option.some.inj found)
      exact ⟨nothing_caseless, (open_group_caseless caseless st.flags _).outer⟩

theorem step_caseless (folds : st.flags.foldsAll = true) (c : Char) (r rest : Text) (st' : State)
    (found : st.step c r = some (st', rest)) : st'.IsCaseless := by
  have pushed (regex : Regex) (height : Nat) (kept : regex.IsCaseless) :
      (st.push { regex, height }).IsCaseless := push_caseless caseless _ kept
  have repeats := repeat_before_caseless caseless
  unfold State.step at found
  dsimp only at found
  split at found
  · exact parenthesis_caseless caseless r rest st' found
  · obtain ⟨closed, made, pair⟩ := Option.map_eq_some_iff.mp found
    obtain ⟨rfl, -⟩ := Prod.mk.inj pair
    exact close_group_caseless caseless _ made
  · obtain ⟨rfl, -⟩ := Prod.mk.inj (Option.some.inj found)
    exact alternate_caseless caseless
  · obtain ⟨⟨part, left⟩, read, pair⟩ := Option.map_eq_some_iff.mp found
    obtain ⟨rfl, -⟩ := Prod.mk.inj pair
    exact pushed _ _ (class_caseless folds r left part read)
  · exact repeats _ _ _ _ _ found
  · exact repeats _ _ _ _ _ found
  · exact repeats _ _ _ _ _ found
  · obtain ⟨⟨⟨least, extra⟩, left⟩, -, made⟩ := Option.bind_eq_some_iff.mp found
    exact repeats _ _ _ _ _ made
  · obtain ⟨⟨atom, left⟩, escape, made⟩ := Option.bind_eq_some_iff.mp found
    obtain ⟨regex, written, pair⟩ := Option.bind_eq_some_iff.mp made
    obtain ⟨rfl, -⟩ := Prod.mk.inj (Option.some.inj pair)
    have kept := escape_caseless folds r left atom escape
    exact pushed _ _ (atom_caseless folds atom kept regex written)
  · split at found
    · obtain ⟨rfl, -⟩ := Prod.mk.inj (Option.some.inj found)
      exact pushed _ _ (dot_caseless st.flags)
    · cases found
  · obtain ⟨rfl, -⟩ := Prod.mk.inj (Option.some.inj found)
    exact pushed _ _ (line_start_caseless st.flags)
  · obtain ⟨rfl, -⟩ := Prod.mk.inj (Option.some.inj found)
    exact pushed _ _ (line_end_caseless st.flags)
  · obtain ⟨rfl, -⟩ := Prod.mk.inj (Option.some.inj found)
    exact pushed _ _ (fold_caseless folds (.single _))

end state

/-- As long as case is ignored all that is read keeps classes together. -/
theorem run_caseless (fuel : Nat) (st st' : State) (s : Text) (caseless : st.IsCaseless)
    (folds : st.foldsCase fuel s = true) (found : st.run fuel s = some st') : st'.IsCaseless := by
  induction fuel generalizing st s with
  | zero => cases found
  | succ fuel ih =>
      rw [State.run] at found
      rw [State.foldsCase] at folds
      split at found
      · rwa [← Option.some.inj found]
      · rename_i c r next
        rw [next] at folds
        obtain ⟨ignores, later⟩ := Bool.and_eq_true_iff.mp folds
        split at found
        · rename_i stepped left step
          rw [step] at later
          exact ih stepped left (step_caseless caseless ignores c r left stepped step) later found
        · cases found

end Reader

def foldsCase (s : Text) : Bool := Reader.State.foldsCase (s.length + 1) {} s

theorem read_caseless (s : Text) (folds : foldsCase s = true) (r : Regex)
    (found : read? s = some r) : r.IsCaseless := by
  rw [read?] at found
  split at found
  · rename_i st run
    have start : Reader.State.IsCaseless {} := ⟨Reader.nothing_caseless, by simp⟩
    have caseless := Reader.run_caseless _ _ st s start folds run
    dsimp only at found
    split at found
    · rw [← Option.some.inj found]
      exact Reader.finish_caseless _ caseless.branches
    · cases found
  · cases found

end ContentFilter.Regex
