import ContentFilter.Text.Basic
import Mathlib.Data.List.DropRight
import Mathlib.Data.List.Infix
import Mathlib.Data.List.TakeWhile

namespace ContentFilter.Text

theorem split_once_some (s sep : Text) (front back : Text)
    (found : s.splitOnce sep = some (front, back)) : s = front ++ sep ++ back := by
  induction s generalizing front with
  | nil => simp [splitOnce] at found
  | cons c r ih =>
      rw [splitOnce] at found
      split at found
      · rename_i here
        obtain ⟨rest, same⟩ := List.isPrefixOf_iff_prefix.mp here
        rw [← same, List.drop_left] at found
        obtain ⟨rfl, rfl⟩ := Prod.mk.inj (Option.some.inj found)
        rw [← same, List.nil_append]
      · obtain ⟨⟨before, after⟩, later, pair⟩ := Option.map_eq_some_iff.mp found
        obtain ⟨rfl, rfl⟩ := Prod.mk.inj pair
        rw [ih before later]
        simp

theorem split_once_none (s sep : Text) (nonempty : sep ≠ []) :
    s.splitOnce sep = none ↔ ¬ sep <:+: s := by
  induction s with
  | nil => simp [splitOnce, nonempty]
  | cons c r ih =>
      rw [splitOnce, List.infix_cons_iff, ← List.isPrefixOf_iff_prefix]
      by_cases here : sep.isPrefixOf (c :: r) = true
      · simp [here]
      · simp [here, ih]

theorem split_once_append (front back rest : Text) (c : Char) (new : c ∉ front) :
    splitOnce (front ++ c :: rest ++ back) (c :: rest) = some (front, back) := by
  induction front with
  | nil =>
      have here : (c :: rest).isPrefixOf (c :: (rest ++ back)) = true :=
        List.isPrefixOf_iff_prefix.mpr ⟨back, by simp⟩
      simp only [List.nil_append, List.cons_append]
      rw [splitOnce, if_pos here]
      simp
  | cons d front ih =>
      have differs : c ≠ d := fun same => new (same ▸ List.mem_cons_self)
      have later := ih fun member => new (List.mem_cons_of_mem d member)
      have elsewhere : (c :: rest).isPrefixOf (d :: (front ++ c :: rest ++ back)) = false := by
        simp [List.isPrefixOf, differs]
      simp only [List.cons_append]
      rw [splitOnce, elsewhere, later]
      simp

theorem split_where_ne_nil (p : Char → Bool) (s : Text) : s.splitWhere p ≠ [] := by
  cases s with
  | nil => simp [splitWhere]
  | cons c r =>
      rw [splitWhere]
      split
      · simp
      · split <;> simp

theorem split_where_cons (p : Char → Bool) (c : Char) (r : Text) (other : p c = false) :
    ∃ part parts, r.splitWhere p = part :: parts ∧
      splitWhere p (c :: r) = (c :: part) :: parts := by
  obtain ⟨part, parts, cut⟩ := List.exists_cons_of_ne_nil (split_where_ne_nil p r)
  exact ⟨part, parts, cut, by simp [splitWhere, other, cut]⟩

theorem split_where_append (p : Char → Bool) (front rest : Text)
    (plain : ∀ c ∈ front, p c = false) :
    ∃ part parts, rest.splitWhere p = part :: parts ∧
      splitWhere p (front ++ rest) = (front ++ part) :: parts := by
  induction front with
  | nil =>
      obtain ⟨part, parts, cut⟩ := List.exists_cons_of_ne_nil (split_where_ne_nil p rest)
      exact ⟨part, parts, cut, cut⟩
  | cons c front ih =>
      obtain ⟨part, parts, cut, whole⟩ :=
        ih fun d member => plain d (List.mem_cons_of_mem c member)
      obtain ⟨first, others, cut', whole'⟩ :=
        split_where_cons p c (front ++ rest) (plain c List.mem_cons_self)
      rw [whole] at cut'
      obtain ⟨rfl, rfl⟩ := List.cons.inj cut'
      exact ⟨part, parts, cut, whole'⟩

theorem split_all_whole (sep : Char) (s : Text) (absent : sep ∉ s) : s.splitAll sep = [s] := by
  have plain : ∀ c ∈ s, (c == sep) = false := by
    intro c member
    exact beq_eq_false_iff_ne.mpr fun same => absent (same ▸ member)
  obtain ⟨part, parts, cut, whole⟩ := split_where_append (· == sep) s [] plain
  obtain ⟨rfl, rfl⟩ := List.cons.inj cut
  rwa [List.append_nil] at whole

theorem split_all_parted (sep : Char) (front back : Text) :
    splitAll sep (front ++ sep :: back) = front.splitAll sep ++ back.splitAll sep := by
  simp only [splitAll]
  induction front with
  | nil => simp [splitWhere]
  | cons c front ih =>
      rw [List.cons_append]
      by_cases here : (c == sep) = true
      · rw [splitWhere, if_pos here, ih, splitWhere, if_pos here, List.cons_append]
      · rw [Bool.not_eq_true] at here
        obtain ⟨part, parts, cut, whole⟩ := split_where_cons (· == sep) c front here
        obtain ⟨first, rest, cut', whole'⟩ :=
          split_where_cons (· == sep) c (front ++ sep :: back) here
        rw [cut', cut, List.cons_append] at ih
        obtain ⟨rfl, rfl⟩ := List.cons.inj ih
        rw [whole, whole', List.cons_append]

theorem split_all_append (sep : Char) (front back : Text) (absent : sep ∉ front) :
    splitAll sep (front ++ sep :: back) = front :: back.splitAll sep := by
  rw [split_all_parted, split_all_whole sep front absent, List.singleton_append]

theorem exists_last_cut (sep : Char) (s : Text) (found : sep ∈ s) :
    ∃ front back, s = front ++ sep :: back ∧ sep ∉ back := by
  obtain ⟨back, front, turned, absent⟩ := List.eq_append_cons_of_mem (List.mem_reverse.mpr found)
  refine ⟨front.reverse, back.reverse, ?_, by simpa using absent⟩
  rw [← List.reverse_reverse s, turned]
  simp

theorem split_all_concat (sep : Char) (s : Text) (c : Char) (other : c ≠ sep) :
    ∃ parts last, s.splitAll sep = parts ++ [last] ∧
      splitAll sep (s ++ [c]) = parts ++ [last ++ [c]] := by
  by_cases found : sep ∈ s
  · obtain ⟨front, back, rfl, absent⟩ := exists_last_cut sep s found
    have before := split_all_whole sep back absent
    have after := split_all_whole sep (back ++ [c]) (by simp [absent, other.symm])
    refine ⟨front.splitAll sep, back, ?_, ?_⟩
    · rw [split_all_parted, before]
    · rw [List.append_assoc, List.cons_append, split_all_parted, after]
  · refine ⟨[], s, split_all_whole sep s found, ?_⟩
    exact split_all_whole sep (s ++ [c]) (by simp [found, other.symm])

theorem split_all_join (sep : Char) (parts : List Text) (some_parts : parts ≠ [])
    (plain : ∀ part ∈ parts, sep ∉ part) : splitAll sep (joinWith [sep] parts) = parts := by
  induction parts with
  | nil => exact absurd rfl some_parts
  | cons part parts ih =>
      have here := plain part List.mem_cons_self
      cases parts with
      | nil => exact split_all_whole sep part here
      | cons next parts =>
          have later := ih (List.cons_ne_nil next parts)
            fun other member => plain other (List.mem_cons_of_mem part member)
          rw [joinWith, List.append_assoc, List.singleton_append,
            split_all_append sep part _ here, later]
          exact List.cons_ne_nil next parts

theorem not_mem_join (sep c : Char) (differs : c ≠ sep) (parts : List Text)
    (absent : ∀ part ∈ parts, c ∉ part) : c ∉ joinWith [sep] parts := by
  induction parts with
  | nil => exact List.not_mem_nil
  | cons part parts ih =>
      have here := absent part List.mem_cons_self
      have later := ih fun other member => absent other (List.mem_cons_of_mem part member)
      cases parts with
      | nil => exact here
      | cons next parts =>
          rw [joinWith]
          · simp [here, later, differs]
          · exact List.cons_ne_nil next parts

theorem parted_induction (sep : Char) {motive : Text → Prop}
    (single : ∀ piece, sep ∉ piece → motive piece)
    (more : ∀ piece rest, sep ∉ piece → motive rest → motive (piece ++ sep :: rest))
    (s : Text) : motive s := by
  induction h : s.length using Nat.strong_induction_on generalizing s with
  | _ n ih =>
      have absent : sep ∉ s.takeWhile (· != sep) := by
        intro member
        simpa using List.mem_takeWhile_imp member
      have whole := List.takeWhile_append_dropWhile (p := (· != sep)) (l := s)
      cases cut : s.dropWhile (· != sep) with
      | nil =>
          rw [cut, List.append_nil] at whole
          exact single s (whole ▸ absent)
      | cons c rest =>
          have isSeparator : c = sep := by
            have stopped := List.head?_dropWhile_not (· != sep) s
            rw [cut] at stopped
            simpa using stopped
          rw [cut, isSeparator] at whole
          rw [← whole]
          have shorter : rest.length < n := by
            rw [← h, ← whole, List.length_append, List.length_cons]
            omega
          exact more _ rest absent (ih rest.length shorter rest rfl)

theorem no_empty_part (sep : Char) (s : Text) (some_text : s ≠ []) (first : s.head? ≠ some sep)
    (last : s.getLast? ≠ some sep) (apart : ¬ [sep, sep] <:+: s) : [] ∉ s.splitAll sep := by
  induction s using parted_induction sep with
  | single piece whole =>
      rw [split_all_whole sep piece whole, List.mem_singleton]
      exact fun empty => some_text empty.symm
  | more piece rest whole ih =>
      rw [split_all_append sep piece rest whole, List.mem_cons, not_or]
      have some_rest : rest ≠ [] := by
        rintro rfl
        simp at last
      refine ⟨?_, ih some_rest ?_ ?_ ?_⟩
      · rintro rfl
        exact first rfl
      · intro head
        obtain ⟨behind, rfl⟩ := List.head?_eq_some_iff.mp head
        exact apart ⟨piece, behind, by simp⟩
      · rwa [List.getLast?_append_of_ne_nil _ (List.cons_ne_nil sep rest),
          List.getLast?_cons_of_ne_nil some_rest] at last
      · intro within
        exact apart (within.trans ⟨piece ++ [sep], [], by simp⟩)

theorem has_infix_iff (s sub : Text) : s.hasInfix sub = true ↔ sub <:+: s := by
  induction s with
  | nil => simp [hasInfix, List.isEmpty_iff]
  | cons c r ih =>
      rw [hasInfix, Bool.or_eq_true, ih, List.isPrefixOf_iff_prefix, List.infix_cons_iff]

theorem split_last_none (sep : Char) (s : Text) (absent : sep ∉ s) : s.splitLast sep = none := by
  induction s with
  | nil => rfl
  | cons c r ih =>
      have differs : c ≠ sep := fun same => absent (same ▸ List.mem_cons_self)
      have rest := ih fun member => absent (List.mem_cons_of_mem c member)
      rw [splitLast, rest]
      exact if_neg differs

theorem split_last_append (sep : Char) (front back : Text) (absent : sep ∉ back) :
    splitLast sep (front ++ sep :: back) = some (front, back) := by
  induction front with
  | nil => rw [List.nil_append, splitLast, split_last_none sep back absent, if_pos rfl]
  | cons c front ih => rw [List.cons_append, splitLast, ih]

theorem strip_last_append (c : Char) (front : Text) : stripLast? c (front ++ [c]) = some front := by
  induction front with
  | nil => rw [List.nil_append, stripLast?, if_pos rfl]
  | cons d front ih =>
      rw [List.cons_append, stripLast?, ih, Option.map_some]
      simp

theorem strip_last_some (c : Char) (s front : Text) (found : s.stripLast? c = some front) :
    s = front ++ [c] := by
  induction s generalizing front with
  | nil => cases found
  | cons d r ih =>
      cases r with
      | nil =>
          rw [stripLast?] at found
          split at found
          · rename_i same
            rw [← Option.some.inj found, same]
            rfl
          · cases found
      | cons e r =>
          rw [stripLast?, Option.map_eq_some_iff] at found
          · obtain ⟨rest, later, rfl⟩ := found
            rw [ih rest later, List.cons_append]
          · exact List.cons_ne_nil e r

theorem strip_last_eq_some (c : Char) (s front : Text) :
    s.stripLast? c = some front ↔ s = front ++ [c] := by
  constructor
  · exact strip_last_some c s front
  · rintro rfl
    exact strip_last_append c front

theorem strip_prefix_append (mark rest : Text) : stripPrefix? (mark ++ rest) mark = some rest := by
  rw [stripPrefix?, if_pos (List.isPrefixOf_iff_prefix.mpr (List.prefix_append mark rest)),
    List.drop_left]

theorem strip_prefix_none (s mark : Text) : s.stripPrefix? mark = none ↔ ¬ mark <+: s := by
  rw [stripPrefix?, ite_eq_right_iff, ← List.isPrefixOf_iff_prefix]
  simp

theorem strip_prefix_eq_some (s mark rest : Text) :
    s.stripPrefix? mark = some rest ↔ s = mark ++ rest := by
  constructor
  · intro found
    by_cases marked : mark <+: s
    · obtain ⟨behind, rfl⟩ := marked
      rw [strip_prefix_append] at found
      rw [Option.some.inj found]
    · rw [(strip_prefix_none s mark).mpr marked] at found
      cases found
  · intro whole
    rw [whole]
    exact strip_prefix_append mark rest

def IsTrimmed (s : Text) : Prop :=
  (∀ c ∈ s.head?, isBlank c = false) ∧ ∀ c ∈ s.getLast?, isBlank c = false

theorem drop_end_while_eq (p : Char → Bool) (s : Text) (kept : ∀ c ∈ s.getLast?, p c = false) :
    s.dropEndWhile p = s := by
  have stays : s.reverse.dropWhile p = s.reverse := by
    cases h : s.reverse with
    | nil => rfl
    | cons c r =>
        have last : s.getLast? = some c := by rw [← List.head?_reverse, h, List.head?_cons]
        simp [kept c last]
  rw [dropEndWhile, stays, List.reverse_reverse]

theorem drop_end_while_concat (p : Char → Bool) (s : Text) (c : Char) :
    dropEndWhile p (s ++ [c]) = if p c then s.dropEndWhile p else s ++ [c] := by
  rw [dropEndWhile, List.reverse_concat, List.dropWhile_cons, dropEndWhile]
  split <;> simp

theorem drop_end_while_append (p : Char → Bool) (front back : Text) (c : Char)
    (kept : p c = false) :
    dropEndWhile p (front ++ c :: back) = front ++ c :: back.dropEndWhile p := by
  rw [dropEndWhile, List.reverse_append, List.reverse_cons, List.append_assoc,
    List.singleton_append, List.dropWhile_append]
  cases ended : back.reverse.dropWhile p with
  | nil => simp [dropEndWhile, ended, kept]
  | cons d rest => simp [dropEndWhile, ended]

theorem trim_begun (s : Text) (begun : ∀ c ∈ s.head?, isBlank c = false) :
    s.trim = s.dropEndWhile isBlank := by
  have front : s.dropWhile isBlank = s := by
    cases s with
    | nil => rfl
    | cons c r => simp [begun c rfl]
  rw [trim, dropAroundWhile, front]

theorem trim_eq (s : Text) (trimmed : IsTrimmed s) : s.trim = s := by
  rw [trim_begun s trimmed.1, drop_end_while_eq isBlank s trimmed.2]

theorem last_drop_end_while (p : Char → Bool) (s : Text) :
    ∀ c ∈ (s.dropEndWhile p).getLast?, p c = false := by
  intro c last
  rw [dropEndWhile, List.getLast?_reverse] at last
  have none_left := List.head?_dropWhile_not p s.reverse
  rw [Option.mem_def.mp last] at none_left
  exact none_left

theorem drop_end_while_front (p : Char → Bool) (s : Text) : s.dropEndWhile p <+: s := by
  have tail : s.reverse.dropWhile p <:+ s.reverse := List.dropWhile_suffix p
  have turned := List.reverse_prefix.mpr tail
  rwa [List.reverse_reverse] at turned

theorem head_drop_around_while (p : Char → Bool) (s : Text) :
    ∀ c ∈ (s.dropAroundWhile p).head?, p c = false := by
  intro c head
  obtain ⟨rest, same⟩ := drop_end_while_front p (s.dropWhile p)
  have front : (s.dropWhile p).head? = some c := by
    rw [← same, List.head?_append, show (dropEndWhile p _).head? = some c from head]
    rfl
  have none_left := List.head?_dropWhile_not p s
  rw [front] at none_left
  exact none_left

theorem trim_trimmed (s : Text) : IsTrimmed s.trim :=
  ⟨head_drop_around_while isBlank s, last_drop_end_while isBlank _⟩

@[simp] theorem trim_trim (s : Text) : s.trim.trim = s.trim := trim_eq s.trim (trim_trimmed s)

theorem trim_append_blank (s : Text) (c : Char) (blank : isBlank c = true) :
    trim (s ++ [c]) = s.trim := by
  rw [trim, trim, dropAroundWhile, dropAroundWhile, List.dropWhile_append]
  cases front : s.dropWhile isBlank with
  | nil => simp [blank]
  | cons d r => simp [dropEndWhile, blank]

theorem trim_cons_blank (s : Text) (c : Char) (blank : isBlank c = true) :
    trim (c :: s) = s.trim := by
  rw [trim, trim, dropAroundWhile, dropAroundWhile, List.dropWhile_cons, if_pos blank]

theorem trim_around (front back : Text) (c : Char) (kept : isBlank c = false) :
    trim (front ++ c :: back) = front.trimStart ++ c :: back.dropEndWhile isBlank := by
  have begun : (front ++ c :: back).dropWhile isBlank = front.trimStart ++ c :: back := by
    rw [List.dropWhile_append, trimStart]
    split
    · rename_i nothing
      rw [List.isEmpty_iff.mp nothing, List.dropWhile_cons, kept]
      rfl
    · rfl
  rw [trim, dropAroundWhile, begun, drop_end_while_append isBlank _ back c kept]

@[simp] theorem trim_trim_start (s : Text) : s.trimStart.trim = s.trim := by
  rw [trim, dropAroundWhile, trimStart, List.dropWhile_idempotent, trim, dropAroundWhile]

@[simp] theorem trim_drop_end (s : Text) : trim (s.dropEndWhile isBlank) = s.trim := by
  induction s using List.reverseRecOn with
  | nil => rfl
  | append_singleton s c ih =>
      rw [drop_end_while_concat]
      split
      · rename_i blank
        rw [ih, trim_append_blank s c blank]
      · rfl

theorem trim_within (s : Text) : s.trim <:+: s :=
  (drop_end_while_front isBlank _).isInfix.trans (List.dropWhile_suffix isBlank).isInfix

theorem trimmed_of_trim_eq (s : Text) (same : s.trim = s) : IsTrimmed s :=
  same ▸ trim_trimmed s

theorem trimmed_append (front middle back : Text) (first : IsTrimmed front)
    (last : IsTrimmed back) (some_front : front ≠ []) (some_back : back ≠ []) :
    IsTrimmed (front ++ middle ++ back) := by
  constructor
  · intro c head
    rw [List.append_assoc, List.head?_append_of_ne_nil front some_front] at head
    exact first.1 c head
  · intro c tail
    rw [List.getLast?_append_of_ne_nil _ some_back] at tail
    exact last.2 c tail

section trimmedParts

variable (sep : Char) (filled : isBlank sep = false)

include filled

theorem split_all_drop_end (s : Text) :
    ((s.dropEndWhile isBlank).splitAll sep).map trim = (s.splitAll sep).map trim := by
  induction s using List.reverseRecOn with
  | nil => rfl
  | append_singleton s c ih =>
      rw [drop_end_while_concat]
      split
      · rename_i blank
        have other : c ≠ sep := by
          rintro rfl
          rw [filled] at blank
          cases blank
        obtain ⟨parts, last, before, after⟩ := split_all_concat sep s c other
        rw [ih, before, after, List.map_append, List.map_append, List.map_singleton,
          List.map_singleton, trim_append_blank last c blank]
      · rfl

theorem split_all_trim_start (s : Text) :
    (s.trimStart.splitAll sep).map trim = (s.splitAll sep).map trim := by
  induction s with
  | nil => rfl
  | cons c s ih =>
      rw [trimStart, List.dropWhile_cons]
      split
      · rename_i blank
        have other : (c == sep) = false := by
          rw [beq_eq_false_iff_ne]
          rintro rfl
          rw [filled] at blank
          cases blank
        obtain ⟨part, parts, before, after⟩ := split_where_cons (· == sep) c s other
        have longer : (splitAll sep (c :: s)).map trim = (splitAll sep s).map trim := by
          simp only [splitAll, before, after, List.map_cons, trim_cons_blank part c blank]
        rw [longer]
        exact ih
      · rfl

theorem split_all_trim (s : Text) :
    (s.trim.splitAll sep).map trim = (s.splitAll sep).map trim := by
  rw [trim, dropAroundWhile, split_all_drop_end sep filled]
  exact split_all_trim_start sep filled s

end trimmedParts

/-- What looks at trimmed parts alone comes to the same for the parts as they are. -/
theorem fold_trim {α : Type} (f : α → Text → α) (blind : ∀ a part, f a part.trim = f a part)
    (a : α) (parts : List Text) : (parts.map trim).foldl f a = parts.foldl f a := by
  rw [List.foldl_map]
  simp only [blind]

end ContentFilter.Text
