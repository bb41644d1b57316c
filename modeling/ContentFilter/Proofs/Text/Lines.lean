import ContentFilter.Proofs.Text.Cuts
import ContentFilter.Text.Basic

namespace ContentFilter.Text

theorem lines_cons (c : Char) (r : Text) (plain : c ≠ '\n')
    (alone : c = '\r' → r.head? ≠ some '\n') : lines (c :: r) = consLine c (lines r) := by
  rw [lines]
  · exact plain
  · intro rest carriage feed
    exact alone carriage (by rw [feed, List.head?_cons])

theorem lines_ne_nil (s : Text) (nonempty : s ≠ []) : lines s ≠ [] := by
  cases s with
  | nil => exact absurd rfl nonempty
  | cons c r =>
      rw [lines.eq_def]
      split
      · contradiction
      · simp
      · simp
      · unfold consLine
        split <;> simp

theorem single_of_lines (s : Text) : ∀ line ∈ lines s, '\n' ∉ line := by
  induction s using lines.induct with
  | case1 => simp [lines]
  | case2 r ih => simpa [lines] using ih
  | case3 r ih => simpa [lines] using ih
  | case4 c r plain pair ih =>
      have alone : c = '\r' → r.head? ≠ some '\n' := by
        intro isReturn feed
        obtain ⟨rest, same⟩ := List.head?_eq_some_iff.mp feed
        exact pair rest isReturn same
      have differs : '\n' ≠ c := fun same => plain same.symm
      rw [lines_cons c r plain alone]
      cases parted : lines r with
      | nil => simpa [consLine] using differs
      | cons first rest =>
          rw [parted] at ih
          simpa [consLine, differs] using ih

theorem cons_line_append (c : Char) (first rest : List Text) (nonempty : first ≠ []) :
    consLine c (first ++ rest) = consLine c first ++ rest := by
  cases first with
  | nil => exact absurd rfl nonempty
  | cons line more => simp [consLine]

theorem lines_line_feed (front back : Text) :
    lines (front ++ '\n' :: back) = lines (front ++ ['\n']) ++ lines back := by
  induction front using lines.induct with
  | case1 => simp [lines]
  | case2 r ih => simp [lines, ih]
  | case3 r ih => simp [lines, ih]
  | case4 c r plain pair ih =>
      -- a carriage return that ends the front belongs to the line feed after it
      by_cases carriage : c = '\r' ∧ r = []
      · obtain ⟨rfl, rfl⟩ := carriage
        simp [lines]
      · have unfolded (tail : Text) :
            lines (c :: (r ++ '\n' :: tail)) = consLine c (lines (r ++ '\n' :: tail)) := by
          apply lines_cons c _ plain
          intro isReturn
          cases r with
          | nil => exact absurd ⟨isReturn, rfl⟩ carriage
          | cons d r =>
              rw [List.cons_append, List.head?_cons]
              intro feed
              exact pair r isReturn (by rw [Option.some.inj feed])
        rw [List.cons_append, List.cons_append, unfolded, unfolded, ih,
          cons_line_append c _ _ (lines_ne_nil _ (by simp))]

theorem lines_whole (line : Text) (single : '\n' ∉ line) (nonempty : line ≠ []) :
    lines line = [line] := by
  induction line with
  | nil => exact absurd rfl nonempty
  | cons c r ih =>
      have first : c ≠ '\n' := fun same => single (same ▸ List.mem_cons_self)
      have rest : '\n' ∉ r := fun member => single (List.mem_cons_of_mem c member)
      rw [lines_cons c r first fun _ feed => rest (List.mem_of_head? feed)]
      cases r with
      | nil => simp [lines, consLine]
      | cons d r => rw [ih rest (by simp), consLine]

def withoutReturn (s : Text) : Text := (s.stripLast? '\r').getD s

theorem without_return_cons (c : Char) (r : Text) (more : ¬ (c = '\r' ∧ r = [])) :
    withoutReturn (c :: r) = c :: withoutReturn r := by
  rw [withoutReturn, withoutReturn]
  cases r with
  | nil =>
      have other : c ≠ '\r' := fun same => more ⟨same, rfl⟩
      simp [stripLast?, other]
  | cons d r =>
      have longer : stripLast? '\r' (c :: d :: r) = (stripLast? '\r' (d :: r)).map (c :: ·) := by
        rw [stripLast?]
        exact List.cons_ne_nil d r
      rw [longer]
      cases stripLast? '\r' (d :: r) <;> rfl

theorem lines_ended (line : Text) (single : '\n' ∉ line) :
    lines (line ++ ['\n']) = [line.withoutReturn] := by
  induction line with
  | nil => rfl
  | cons c r ih =>
      have first : c ≠ '\n' := fun same => single (same ▸ List.mem_cons_self)
      have rest : '\n' ∉ r := fun member => single (List.mem_cons_of_mem c member)
      by_cases carriage : c = '\r' ∧ r = []
      · obtain ⟨rfl, rfl⟩ := carriage
        rfl
      · have alone : c = '\r' → (r ++ ['\n']).head? ≠ some '\n' := by
          intro isReturn
          cases r with
          | nil => exact absurd ⟨isReturn, rfl⟩ carriage
          | cons d r => exact fun feed => rest (List.mem_of_head? feed)
        rw [List.cons_append, lines_cons c _ first alone, ih rest, consLine,
          without_return_cons c r carriage]

theorem lines_single (line : Text) (single : '\n' ∉ line) (kept : line.getLast? ≠ some '\r') :
    lines (line ++ ['\n']) = [line] := by
  rw [lines_ended line single, withoutReturn]
  cases found : line.stripLast? '\r' with
  | none => rfl
  | some front =>
      rw [strip_last_some '\r' line front found] at kept
      exact absurd List.getLast?_concat kept

theorem lines_return (line : Text) (single : '\n' ∉ line) :
    lines (line ++ ['\r', '\n']) = [line] := by
  have together : line ++ ['\r', '\n'] = (line ++ ['\r']) ++ ['\n'] := by simp
  rw [together, lines_ended _ (by simpa using single), withoutReturn, strip_last_append]
  rfl

theorem trim_without_return (line : Text) : line.withoutReturn.trim = line.trim := by
  rw [withoutReturn]
  cases found : line.stripLast? '\r' with
  | none => rfl
  | some front =>
      rw [strip_last_some '\r' line front found, trim_append_blank front '\r' rfl]
      rfl

theorem lines_single_trimmed (line : Text) (single : '\n' ∉ line) :
    (lines (line ++ ['\n'])).map trim = [line.trim] := by
  rw [lines_ended line single, List.map_singleton, trim_without_return]

theorem last_ne_carriage_return (line : Text) (trimmed : IsTrimmed line) :
    line.getLast? ≠ some '\r' := by
  intro last
  have blank := trimmed.2 '\r' last
  simp [isBlank] at blank

theorem lines_unlines (written : List Text)
    (plain : ∀ line ∈ written, '\n' ∉ line ∧ IsTrimmed line) : lines (unlines written) = written := by
  induction written with
  | nil => rfl
  | cons line rest ih =>
      obtain ⟨single, trimmed⟩ := plain line List.mem_cons_self
      have later := ih fun other member => plain other (List.mem_cons_of_mem line member)
      have first : unlines (line :: rest) = line ++ '\n' :: unlines rest := by simp [unlines]
      rw [first, lines_line_feed, lines_single line single (last_ne_carriage_return line trimmed),
        later, List.singleton_append]

/-- But for white space around them the lines of the text are these. -/
def IsTextOf (text : Text) (lines : List Text) : Prop := text.lines.map trim = lines.map trim

instance (text : Text) (lines : List Text) : Decidable (text.IsTextOf lines) :=
  inferInstanceAs (Decidable (_ = _))

theorem unlines_is_text_of (written : List Text) (single : ∀ line ∈ written, '\n' ∉ line) :
    (unlines written).IsTextOf written := by
  induction written with
  | nil => rfl
  | cons line rest ih =>
      have later := ih fun other member => single other (List.mem_cons_of_mem line member)
      have first : unlines (line :: rest) = line ++ '\n' :: unlines rest := by simp [unlines]
      rw [IsTextOf, first, lines_line_feed, List.map_append, later,
        lines_single_trimmed line (single line List.mem_cons_self), List.map_cons,
        List.singleton_append]

theorem lines_append_line (text line : Text) (ended : text = [] ∨ text.getLast? = some '\n')
    (single : '\n' ∉ line) (trimmed : IsTrimmed line) :
    lines (text ++ unlines [line]) = lines text ++ [line] := by
  have added : unlines [line] = line ++ ['\n'] := by simp [unlines]
  have alone := lines_single line single (last_ne_carriage_return line trimmed)
  rcases ended with rfl | last
  · rw [added, List.nil_append, alone]
    rfl
  · obtain ⟨front, rfl⟩ := List.getLast?_eq_some_iff.mp last
    rw [added, List.append_assoc, List.singleton_append, lines_line_feed, alone]

theorem lines_end_last (text : Text) (some_text : text ≠ [])
    (kept : ∀ c ∈ text.getLast?, isBlank c = false) : lines (text ++ ['\n']) = lines text := by
  induction text using parted_induction '\n' with
  | single last whole =>
      have noReturn : last.getLast? ≠ some '\r' := by
        intro carriage
        cases kept '\r' carriage
      rw [lines_single last whole noReturn, lines_whole last whole some_text]
  | more piece rest whole ih =>
      have some_rest : rest ≠ [] := by
        rintro rfl
        have feed := kept '\n' (by simp)
        cases feed
      rw [List.getLast?_append_of_ne_nil _ (List.cons_ne_nil '\n' rest),
        List.getLast?_cons_of_ne_nil some_rest] at kept
      rw [List.append_assoc, List.cons_append, lines_line_feed, ih some_rest kept,
        ← lines_line_feed]

/-- Where a text does not end in a line feed, a line that is added to it makes its last line longer. -/
theorem lines_append_unended (text line : Text) (some_text : text ≠ [])
    (unended : text.getLast? ≠ some '\n') (single : '\n' ∉ line) (some_line : line ≠ [])
    (trimmed : IsTrimmed line) :
    ∃ first last, lines text = first ++ [last] ∧
      lines (text ++ unlines [line]) = first ++ [last ++ line] := by
  induction text using parted_induction '\n' with
  | single last whole =>
      have together : '\n' ∉ last ++ line := by simp [whole, single]
      have kept : (last ++ line).getLast? ≠ some '\r' := by
        rw [List.getLast?_append_of_ne_nil last some_line]
        exact last_ne_carriage_return line trimmed
      have added : last ++ unlines [line] = (last ++ line) ++ ['\n'] := by simp [unlines]
      refine ⟨[], last, lines_whole last whole some_text, ?_⟩
      rw [added, lines_single (last ++ line) together kept, List.nil_append]
  | more piece rest whole ih =>
      have some_rest : rest ≠ [] := by
        rintro rfl
        simp at unended
      rw [List.getLast?_append_of_ne_nil _ (List.cons_ne_nil '\n' rest),
        List.getLast?_cons_of_ne_nil some_rest] at unended
      obtain ⟨first, last, before, after⟩ := ih some_rest unended
      refine ⟨lines (piece ++ ['\n']) ++ first, last, ?_, ?_⟩
      · rw [lines_line_feed, before, List.append_assoc]
      · rw [List.append_assoc, List.cons_append, lines_line_feed, after, List.append_assoc]

end ContentFilter.Text
