import ContentFilter.Proofs.Hiding.Lines
import ContentFilter.Proofs.Text.Lines
import ContentFilter.Proofs.Verdict.Lines
/-!
Lists with the same lines. A line is trimmed before anything else is done with it, and each verdict
and each hidden selector comes from some line or from none: so the order of the lines, their
repetitions and the way they are ended make no difference but to which of several rules is named
and to the order of the selectors.
-/
namespace ContentFilter

namespace Text

/-- Both texts have the same lines, wherever these stand, as often as they stand there and whatever
white space is around them. -/
def SameLines (a b : Text) : Prop := ∀ line, line ∈ a.lines.map trim ↔ line ∈ b.lines.map trim

instance (a b : Text) : Decidable (SameLines a b) :=
  decidable_of_iff (a.lines.map trim ⊆ b.lines.map trim ∧ b.lines.map trim ⊆ a.lines.map trim)
    ⟨fun within _ => ⟨fun member => within.1 member, fun member => within.2 member⟩,
      fun same => ⟨fun line => (same line).mp, fun line => (same line).mpr⟩⟩

theorem same_lines_of_mem (a b : Text) (same : ∀ line, line ∈ a.lines ↔ line ∈ b.lines) :
    SameLines a b := by
  intro line
  simp only [List.mem_map, same]

def withReturns (s : Text) : Text := s.flatMap fun c => if c = '\n' then ['\r', '\n'] else [c]

theorem with_returns_single (line : Text) (single : '\n' ∉ line) : line.withReturns = line := by
  have plain (c : Char) (member : c ∈ line) : (if c = '\n' then ['\r', '\n'] else [c]) = [c] := by
    rw [if_neg]
    rintro rfl
    exact single member
  rw [withReturns, List.flatMap_congr plain, List.flatMap_singleton']

theorem same_lines_with_returns (s : Text) : SameLines s.withReturns s := by
  suffices same : s.withReturns.lines.map trim = s.lines.map trim by
    intro line
    rw [same]
  induction s using parted_induction '\n' with
  | single line single => rw [with_returns_single line single]
  | more line rest single ih =>
      have written : withReturns (line ++ '\n' :: rest) =
          (line ++ ['\r']) ++ '\n' :: rest.withReturns := by
        rw [withReturns, List.flatMap_append, ← withReturns, with_returns_single line single]
        simp [withReturns]
      rw [written, lines_line_feed, lines_line_feed line rest, List.map_append, List.map_append, ih,
        lines_single_trimmed line single, List.append_assoc, List.singleton_append,
        lines_return line single, List.map_singleton]

section SameLines

variable (a b : Text) (same : SameLines a b)

include same

theorem exists_same_lines (p : Text → Prop) (trimmed : ∀ line : Text, p line.trim ↔ p line) :
    (∃ line ∈ a.lines, p line) ↔ ∃ line ∈ b.lines, p line := by
  have onTrimmed (s : Text) : (∃ line ∈ s.lines, p line) ↔ ∃ line ∈ s.lines.map trim, p line := by
    constructor
    · intro ⟨line, member, holds⟩
      exact ⟨line.trim, List.mem_map_of_mem member, (trimmed line).mpr holds⟩
    · intro ⟨_, among, holds⟩
      obtain ⟨line, member, rfl⟩ := List.mem_map.mp among
      exact ⟨line, member, (trimmed line).mp holds⟩
  simp only [onTrimmed, same _]

theorem any_same_lines (p : Text → Bool) (trimmed : ∀ line : Text, p line.trim = p line) :
    a.lines.any p = b.lines.any p := by
  rw [Bool.eq_iff_iff, List.any_eq_true, List.any_eq_true]
  apply exists_same_lines a b same
  intro line
  rw [trimmed line]

end SameLines

end Text

open Text

namespace Verdict

def unquoted : Verdict → Verdict
  | allowedBy _ => allowedBy []
  | blockedBy _ => blockedBy []
  | verdict => verdict

theorem unquoted_is_blocked (v : Verdict) : v.unquoted.isBlocked = v.isBlocked := by
  cases v <;> rfl

/-- Which step decides is up to which kinds of lines hit the request. -/
theorem of_lines_unquoted (lines : List Text) (r : Request) :
    (ofLines lines r).unquoted =
      if lines.any (hostLineHits .allow r) then allowedHost
      else if lines.any fun line => (patternOfLine? .allow r line).isSome then allowedBy []
      else if lines.any (hostLineHits .block r) then blockedHost
      else if lines.any fun line => (patternOfLine? .block r line).isSome then blockedBy []
      else noMatch := by
  have found (action : Action) : (lines.any fun line => (patternOfLine? action r line).isSome) =
      (firstPattern? action r lines).isSome := by
    rw [Bool.eq_iff_iff, firstPattern?, List.findSome?_isSome_iff, List.any_eq_true]
  rw [found, found, ofLines]
  split
  · rfl
  · cases firstPattern? .allow r lines with
    | some rule => rfl
    | none =>
        dsimp only [Option.isSome_none]
        rw [if_neg Bool.false_ne_true]
        split
        · rfl
        · cases firstPattern? .block r lines <;> rfl

theorem of_list_same_lines (a b : Text) (same : SameLines a b) (r : Request) :
    (ofList a.lines r).unquoted = (ofList b.lines r).unquoted := by
  have hosts (action : Action) :
      a.lines.any (hostLineHits action r) = b.lines.any (hostLineHits action r) := by
    apply any_same_lines a b same
    intro line
    rw [hostLineHits, hostLineHits, Rule.of_line_trim]
  have patterns (action : Action) :
      (a.lines.any fun line => (patternOfLine? action r line).isSome) =
        b.lines.any fun line => (patternOfLine? action r line).isSome := by
    apply any_same_lines a b same
    intro line
    rw [patternOfLine?, patternOfLine?, Rule.of_line_trim]
  have byRules : (ofLines a.lines r).unquoted = (ofLines b.lines r).unquoted := by
    simp only [of_lines_unquoted, hosts, patterns]
  rw [ofList, ofList]
  split
  · rfl
  · split
    · rfl
    · exact byRules

end Verdict

theorem HidingRule.said_of_same_lines (a b : Text) (same : SameLines a b)
    (part : HidingRule → Option Text) (selector : Text) :
    Says a.lines part selector ↔ Says b.lines part selector := by
  apply exists_same_lines a b same
  intro line
  rw [inLine?, inLine?, Rule.of_line_trim]

namespace HidingStore

/-- Of these selectors those that are hidden on every page come first. -/
def GenericFirst (h : HidingStore) (selectors : List Text) : Prop :=
  ∃ front back, selectors = front ++ back ∧ (∀ selector, selector ∈ front ↔ selector ∈ h.generic) ∧
    ∀ selector ∈ back, selector ∉ h.generic

theorem generic_first (h : HidingStore) (host : Text) : h.GenericFirst (h.selectorsFor host) := by
  refine ⟨_, _, List.eraseDups_append, ?_, ?_⟩
  · intro selector
    rw [List.mem_eraseDups, Array.mem_toList_iff]
  · intro selector member
    rw [List.mem_eraseDups, List.removeAll, List.mem_filter] at member
    simpa using member.2

end HidingStore

namespace RuleSet

open HidingRule

theorem mem_generic_of_list (text selector : Text) :
    selector ∈ (ofList text).set.hidden.generic ↔ Says text.lines everywhere? selector := by
  rw [← Array.mem_toList_iff, generic_of_list, mem_rules_iff_says]

/-- The sets of two lists that have the same lines block the same requests at the same step, and
hide the same selectors, the same ones on every page and these before all others. -/
theorem same_lines_same_rules (a b : Text) (same : SameLines a b) :
    (∀ enabled r,
      ((ofList a).set.judge enabled r).isBlocked = ((ofList b).set.judge enabled r).isBlocked ∧
      ((ofList a).set.judge enabled r).unquoted = ((ofList b).set.judge enabled r).unquoted) ∧
    (∀ selector, selector ∈ (ofList a).set.hidden.generic ↔
      selector ∈ (ofList b).set.hidden.generic) ∧
    ∀ host,
      (∀ selector, selector ∈ (ofList a).set.selectorsFor host ↔
        selector ∈ (ofList b).set.selectorsFor host) ∧
      (ofList a).set.hidden.GenericFirst ((ofList a).set.selectorsFor host) ∧
      (ofList b).set.hidden.GenericFirst ((ofList b).set.selectorsFor host) := by
  have said (part : HidingRule → Option Text) := said_of_same_lines a b same part
  refine ⟨?_, ?_, ?_⟩
  · intro enabled r
    have steps : ((ofList a).set.judge enabled r).unquoted =
        ((ofList b).set.judge enabled r).unquoted := by
      cases enabled with
      | false => rfl
      | true =>
          rw [judge_of_list, judge_of_list]
          exact Verdict.of_list_same_lines a b same r
    refine ⟨?_, steps⟩
    rw [← Verdict.unquoted_is_blocked, steps, Verdict.unquoted_is_blocked]
  · intro selector
    rw [mem_generic_of_list, mem_generic_of_list, said]
  · intro host
    refine ⟨?_, HidingStore.generic_first _ host, HidingStore.generic_first _ host⟩
    intro selector
    simp only [selectors_for_of_list, mem_selectors_of, said]

/-- Other line ends, another order and a repetition: the request is blocked by either list. -/
theorem reordered_list_blocks :
    SameLines "ads\nbanner\n##.ad".toList "##.ad\r\n banner \r\nads\r\nbanner".toList ∧
      (ofList "ads\nbanner\n##.ad".toList).set.judge true
          (.of "http://a.example/ads/banner".toList [] [] []) = .blockedBy "ads".toList ∧
      ((ofList "##.ad\r\n banner \r\nads\r\nbanner".toList).set.judge true
          (.of "http://a.example/ads/banner".toList [] [] [])).isBlocked = true ∧
      ".ad".toList ∈ (ofList "##.ad\r\n banner \r\nads\r\nbanner".toList).set.selectorsFor [] := by
  have same : SameLines "ads\nbanner\n##.ad".toList
      "##.ad\r\n banner \r\nads\r\nbanner".toList := by decide
  obtain ⟨judged, -, hidden⟩ := same_lines_same_rules _ _ same
  have first : (ofList "ads\nbanner\n##.ad".toList).set.judge true
      (.of "http://a.example/ads/banner".toList [] [] []) = .blockedBy "ads".toList := by
    decide +kernel
  refine ⟨same, first, ?_, ?_⟩
  · rw [← (judged true _).1, first]
    rfl
  · rw [← (hidden []).1]
    decide +kernel

end RuleSet

end ContentFilter
