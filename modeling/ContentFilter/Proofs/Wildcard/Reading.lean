import ContentFilter.Pattern
/-!
What the expression of a wildcard filter is read as. Each part of it is read on its own, whatever
comes before and after, to one piece or a few; and so the whole is read as the sequence of its
pieces, and never fails to be read.
-/
namespace ContentFilter

namespace Regex.Reader

def reading (pieces : List Piece) : State := { branches := { pieces } }

/-- The text is read as the pieces wherever it stands, unless a question mark follows: that would go
with a repetition before it. -/
structure Writes (written : Text) (pieces : List Piece) : Prop where
  start : written.head? ≠ some '?'
  run : ∀ (before : List Piece) (rest : Text) (fuel : Nat), rest.head? ≠ some '?' →
    rest.length < fuel → ∃ fuel', rest.length < fuel' ∧
      State.run (fuel + written.length) (reading before) (written ++ rest) =
        State.run fuel' (reading (pieces.reverse ++ before)) rest

theorem run_step (before : List Piece) (c : Char) (rest left : Text) (st : State) (fuel : Nat)
    (stepped : (reading before).step c rest = some (st, left)) :
    State.run (fuel + 1) (reading before) (c :: rest) = State.run fuel st left := by
  have kept : skip (reading before).flags.verbose (c :: rest) = c :: rest := rfl
  rw [State.run, kept]
  simp only [stepped]

theorem writes_nil : Writes [] [] where
  start := by simp
  run before rest fuel _ enough := ⟨fuel, enough, rfl⟩

theorem writes_append (front back : Text) (first second : List Piece) (begun : Writes front first)
    (ended : Writes back second) : Writes (front ++ back) (first ++ second) := by
  have follows (rest : Text) (plain : rest.head? ≠ some '?') : (back ++ rest).head? ≠ some '?' := by
    cases back with
    | nil => exact plain
    | cons c back => exact ended.start
  constructor
  · cases front with
    | nil => exact ended.start
    | cons c front => exact begun.start
  · intro before rest fuel plain enough
    obtain ⟨middle, left, runFront⟩ := begun.run before (back ++ rest) (fuel + back.length)
      (follows rest plain) (by rw [List.length_append]; omega)
    rw [List.length_append] at left
    obtain ⟨fuel', more, runBack⟩ := ended.run (first.reverse ++ before) rest
      (middle - back.length) plain (by omega)
    refine ⟨fuel', more, ?_⟩
    rw [Nat.sub_add_cancel (by omega)] at runBack
    calc State.run (fuel + (front ++ back).length) (reading before) (front ++ back ++ rest)
      _ = State.run (fuel + back.length + front.length) (reading before)
            (front ++ (back ++ rest)) := by
          rw [List.length_append, List.append_assoc, Nat.add_assoc, Nat.add_comm back.length]
      _ = State.run middle (reading (first.reverse ++ before)) (back ++ rest) := runFront
      _ = State.run fuel' (reading (second.reverse ++ (first.reverse ++ before))) rest := runBack
      _ = State.run fuel' (reading ((first ++ second).reverse ++ before)) rest := by
          rw [List.reverse_append, List.append_assoc]

theorem writes_flat_map {α : Type} (written : α → Text) (pieces : α → List Piece)
    (each : ∀ a, Writes (written a) (pieces a)) (all : List α) :
    Writes (all.flatMap written) (all.flatMap pieces) := by
  induction all with
  | nil => exact writes_nil
  | cons a all ih =>
      rw [List.flatMap_cons, List.flatMap_cons]
      exact writes_append _ _ _ _ (each a) ih

theorem writes_of_run (written : Text) (pieces : List Piece) (left : Nat)
    (start : written.head? ≠ some '?')
    (run : ∀ (before : List Piece) (rest : Text) (fuel : Nat), rest.head? ≠ some '?' →
      State.run (fuel + written.length) (reading before) (written ++ rest) =
        State.run (fuel + left) (reading (pieces.reverse ++ before)) rest) :
    Writes written pieces where
  start := start
  run before rest fuel plain enough :=
    ⟨fuel + left, Nat.lt_add_right left enough, run before rest fuel plain⟩

theorem max_height_le (heights : List Nat) (most : Nat) (bounded : ∀ h ∈ heights, h ≤ most) :
    maxHeight heights ≤ most := by
  have fold (start : Nat) (begun : start ≤ most) : heights.foldl max start ≤ most := by
    induction heights generalizing start with
    | nil => exact begun
    | cons h heights ih =>
        rw [List.foldl_cons]
        exact ih (fun h' member => bounded h' (List.mem_cons_of_mem h member)) _
          (Nat.max_le.mpr ⟨begun, bounded h List.mem_cons_self⟩)
  exact fold 0 (Nat.zero_le most)

theorem sequence_regex (pieces : List Piece) :
    (sequence pieces).regex = .seqAll (pieces.reverse.map (·.regex)) := by
  match pieces with
  | [] => rfl
  | [piece] => rfl
  | first :: second :: rest => rfl

theorem sequence_height (pieces : List Piece) (most : Nat)
    (bounded : ∀ p ∈ pieces, p.height ≤ most) :
    (sequence pieces).height ≤ most + 1 := by
  match pieces with
  | [] => exact Nat.zero_le _
  | [piece] => exact Nat.le_succ_of_le (bounded piece List.mem_cons_self)
  | first :: second :: rest =>
    refine Nat.succ_le_succ (max_height_le _ most ?_)
    intro h member
    obtain ⟨piece, among, rfl⟩ := List.mem_map.mp member
    exact bounded piece among

/-- A text that is read as pieces of little height is read as their sequence. -/
theorem read_of_writes (written : Text) (pieces : List Piece) (writes : Writes written pieces)
    (low : ∀ p ∈ pieces, p.height < maxDepth) :
    read? written = some (.seqAll (pieces.map (·.regex))) := by
  obtain ⟨fuel, enough, run⟩ := writes.run [] [] 1 (by simp) Nat.one_pos
  obtain ⟨fuel, rfl⟩ := Nat.exists_eq_succ_of_ne_zero (Nat.ne_of_gt enough)
  have whole : State.run (written.length + 1) {} written = some (reading pieces.reverse) := by
    rw [List.append_nil, List.append_nil, Nat.add_comm] at run
    exact run
  have height : (sequence pieces.reverse).height ≤ maxDepth := by
    refine sequence_height _ 249 ?_
    intro p member
    exact Nat.le_of_lt_succ (low p (List.mem_reverse.mp member))
  have finished : (reading pieces.reverse).branches.finish = sequence pieces.reverse := rfl
  rw [read?, whole]
  simp only [finished, sequence_regex, List.reverse_reverse]
  rw [if_pos]
  simp [reading, height]

end Regex.Reader

namespace Wildcard

open Regex Regex.Reader

def caseless (s : CharSet) : Regex := .one (.folded .simple s)

def literal (c : Char) : Regex := caseless (.single c)

def nonSeparators : CharSet := .unionAll [.word, .single '-', .single '.', .single '%']

def letters : CharSet := .unionAll [.asciiLower, .asciiUpper]

def schemeChars : CharSet :=
  .unionAll [.asciiLower, .asciiUpper, .asciiDigit, .single '+', .single '.', .single '-']

def authorityEnds : CharSet := .unionAll [.single '/', .single '?', .single '#']

def others (s : CharSet) : Regex := .one (.compl (.folded .simple s))

def anyRunRegex : Regex := .star (.one (.compl .newline))

def separatorRegex : Regex := .group none (.alt (others nonSeparators) (.look .textEnd))

def labelsRegex : Regex := .group none (.seq (.star (others authorityEnds)) (literal '.'))

def schemeRegexes : List Regex :=
  [.look .textStart, caseless letters, .star (caseless schemeChars), literal ':', literal '/',
    literal '/']

def anchorRegexes : Anchor → List Regex
  | .anywhere => []
  | .urlStart => [.look .textStart]
  | .domain => schemeRegexes ++ [.optional labelsRegex]

def tokenRegex : Token → Regex
  | .anyRun => anyRunRegex
  | .separator => separatorRegex
  | .char c => literal c

def mergeRuns (afterRun : Bool) : List Token → List Token
  | [] => []
  | .anyRun :: rest => (if afterRun then [] else [.anyRun]) ++ mergeRuns true rest
  | token :: rest => token :: mergeRuns false rest

def endRegexes (atEnd : Bool) : List Regex := if atEnd then [.look .textEnd] else []

def regex (w : Wildcard) : Regex :=
  .seqAll (anchorRegexes w.anchor ++ (mergeRuns false w.body).map tokenRegex ++ endRegexes w.atEnd)

def tokenExpression : Token → Text
  | .anyRun => ['.', '*']
  | .separator => separatorExpression
  | .char c => escaped c

/-- The piece of a token. What is repeated nests one level, an alternative in a group four. -/
def tokenPiece (token : Token) : Piece :=
  { regex := tokenRegex token
    height := match token with
      | .anyRun => 1
      | .separator => 4
      | .char _ => 0 }

theorem body_expression_eq (afterRun : Bool) (body : List Token) :
    bodyExpression afterRun body = (mergeRuns afterRun body).flatMap tokenExpression := by
  induction body generalizing afterRun with
  | nil => rfl
  | cons token rest ih =>
      cases token with
      | anyRun => cases afterRun <;> simp [bodyExpression, mergeRuns, ih, tokenExpression]
      | separator => simp [bodyExpression, mergeRuns, ih, tokenExpression]
      | char c => simp [bodyExpression, mergeRuns, ih, tokenExpression]

theorem step_literal (before : List Piece) (c : Char) (rest : Text) (plain : isMeta c = false) :
    (reading before).step c rest = some (reading ({ regex := literal c } :: before), rest) := by
  unfold State.step
  split
  all_goals first | cases plain | rfl

theorem step_escaped (before : List Piece) (c : Char) (rest : Text) (special : isMeta c = true) :
    (reading before).step '\\' (c :: rest) =
      some (reading ({ regex := literal c } :: before), rest) := by
  simp only [isMeta, List.contains_iff_mem, List.mem_cons, List.not_mem_nil, or_false] at special
  rcases special with rfl | rfl | rfl | rfl | rfl | rfl | rfl | rfl | rfl | rfl | rfl | rfl | rfl |
    rfl | rfl | rfl | rfl | rfl
  all_goals rfl

theorem writes_char (c : Char) : Writes (escaped c) [tokenPiece (.char c)] := by
  by_cases special : isMeta c = true
  · rw [escaped, if_pos special]
    refine writes_of_run _ _ 1 (by simp) ?_
    intro before rest fuel _
    exact run_step before '\\' (c :: rest) rest _ (fuel + 1) (step_escaped before c rest special)
  · have plain : isMeta c = false := Bool.eq_false_iff.mpr special
    rw [escaped, if_neg special]
    refine writes_of_run _ _ 0 ?_ ?_
    · intro question
      rw [Option.some.inj question] at plain
      cases plain
    · intro before rest fuel _
      exact run_step before c rest rest _ fuel (step_literal before c rest plain)

theorem run_repeated (before : List Piece) (regex : Regex) (height : Nat) (rest : Text) (fuel : Nat)
    (mark : Char) (least : Nat) (extra : Option Nat)
    (stepped : ∀ st : State, st.step mark rest = st.repeatBefore least extra rest)
    (plain : rest.head? ≠ some '?') :
    State.run (fuel + 1) (reading ({ regex, height } :: before)) (mark :: rest) =
      State.run fuel (reading ({ regex := .rep regex least extra true, height := height + 1 } ::
        before)) rest := by
  have greedy (st : State) : st.repeatBefore least extra rest =
      (st.repeated least extra !st.flags.swapGreed).map (·, rest) := by
    unfold State.repeatBefore
    split
    · exact absurd rfl plain
    · rfl
  refine run_step _ mark rest rest _ fuel ?_
  rw [stepped, greedy]
  rfl

theorem writes_any_run : Writes ['.', '*'] [tokenPiece .anyRun] := by
  refine writes_of_run _ _ 0 (by simp) ?_
  intro before rest fuel plain
  exact run_repeated before (.one (.compl .newline)) 0 rest fuel '*' 0 none (fun _ => rfl) plain

theorem writes_separator : Writes separatorExpression [tokenPiece .separator] := by
  refine writes_of_run _ _ 10 (by decide) ?_
  intro before rest fuel _
  rfl

def domainPieces : List Piece :=
  [{ regex := .look .textStart }, { regex := caseless letters, height := 2 },
    { regex := .star (caseless schemeChars), height := 3 }, { regex := literal ':' },
    { regex := literal '/' }, { regex := literal '/' },
    { regex := .optional labelsRegex, height := 6 }]

theorem writes_domain : Writes domainExpression domainPieces := by
  refine writes_of_run _ _ 29 (by decide) ?_
  intro before rest fuel plain
  exact run_repeated _ labelsRegex 5 rest (fuel + 29) '?' 0 (some 1) (fun _ => rfl) plain

theorem writes_look (c : Char) (assertion : Look) (other : c ≠ '?')
    (stepped : ∀ (before : List Piece) (rest : Text), (reading before).step c rest =
      some (reading ({ regex := .look assertion } :: before), rest)) :
    Writes [c] [{ regex := .look assertion }] := by
  refine writes_of_run _ _ 0 (by simpa using other) ?_
  intro before rest fuel _
  exact run_step before c rest rest _ fuel (stepped before rest)

def anchorPieces : Anchor → List Piece
  | .anywhere => []
  | .urlStart => [{ regex := .look .textStart }]
  | .domain => domainPieces

def endPieces (atEnd : Bool) : List Piece := if atEnd then [{ regex := .look .textEnd }] else []

theorem writes_anchor (anchor : Anchor) :
    Writes (anchorExpression anchor) (anchorPieces anchor) := by
  cases anchor with
  | anywhere => exact writes_nil
  | urlStart => exact writes_look '^' .textStart (by decide) fun _ _ => rfl
  | domain => exact writes_domain

theorem writes_token (token : Token) : Writes (tokenExpression token) [tokenPiece token] := by
  cases token with
  | anyRun => exact writes_any_run
  | separator => exact writes_separator
  | char c => exact writes_char c

theorem writes_end (atEnd : Bool) : Writes (if atEnd then ['$'] else []) (endPieces atEnd) := by
  cases atEnd with
  | false => exact writes_nil
  | true => exact writes_look '$' .textEnd (by decide) fun _ _ => rfl

def pieces (w : Wildcard) : List Piece :=
  anchorPieces w.anchor ++ (mergeRuns false w.body).map tokenPiece ++ endPieces w.atEnd

theorem pieces_regex (w : Wildcard) : .seqAll (w.pieces.map (·.regex)) = w.regex := by
  have anchor : (anchorPieces w.anchor).map (·.regex) = anchorRegexes w.anchor := by
    cases w.anchor <;> rfl
  have atEnd : (endPieces w.atEnd).map (·.regex) = endRegexes w.atEnd := by
    cases w.atEnd <;> rfl
  have body : ((mergeRuns false w.body).map tokenPiece).map (·.regex) =
      (mergeRuns false w.body).map tokenRegex := List.map_map
  rw [pieces, regex, List.map_append, List.map_append, anchor, atEnd, body]

theorem pieces_low (w : Wildcard) : ∀ p ∈ w.pieces, p.height ≤ 6 := by
  intro p member
  simp only [pieces, List.mem_append, List.mem_map] at member
  rcases member with (anchor | ⟨token, -, rfl⟩) | atEnd
  · revert p
    cases w.anchor <;> decide
  · cases token with
    | anyRun => decide
    | separator => decide
    | char c => exact Nat.zero_le 6
  · revert p
    cases w.atEnd <;> decide

/-- Every filter is read, and as the sequence of what its parts stand for. -/
theorem read_expression (w : Wildcard) : Regex.read? w.expression = some w.regex := by
  have body : Writes (bodyExpression false w.body) ((mergeRuns false w.body).map tokenPiece) := by
    rw [body_expression_eq, List.map_eq_flatMap]
    exact writes_flat_map tokenExpression (fun token => [tokenPiece token]) writes_token _
  have whole : Writes w.expression w.pieces :=
    writes_append _ _ _ _ (writes_append _ _ _ _ (writes_anchor w.anchor) body) (writes_end w.atEnd)
  rw [read_of_writes w.expression w.pieces whole, pieces_regex]
  intro p member
  exact Nat.lt_of_le_of_lt (pieces_low w p member) (by decide)

end Wildcard

end ContentFilter
