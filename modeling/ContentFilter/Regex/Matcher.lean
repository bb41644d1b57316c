import ContentFilter.Regex.Basic
/-!
Search by sets of positions. From the set of positions where a stretch may begin, `reach` finds
all positions where one may end, so that every part of an expression is gone through once for all
starts together and nothing is ever tried twice.
-/
namespace ContentFilter.Regex

/-- A set of positions of a text: one mark for each, the position after the last character too. -/
abbrev Marks := List Bool

namespace Marks

def everywhere (t : Text) : Marks := List.replicate (t.length + 1) true

def join (m n : Marks) : Marks := List.zipWith (· || ·) m n

def minus (m n : Marks) : Marks := List.zipWith (fun a b => a && !b) m n

def isMarked (m : Marks) : Bool := m.any id

def crossed (chars : CharSet) : Text → Marks → Marks
  | c :: t, a :: m => (a && chars.has c) :: crossed chars t m
  | _, _ => []

def advance (chars : CharSet) (t : Text) (m : Marks) : Marks := false :: crossed chars t m

def keep (assertion : Look) (before : Option Char) : Text → Marks → Marks
  | c :: t, a :: m =>
    (a && assertion.holds before (some c)) :: keep assertion (some c) t m
  | [], a :: _ => [a && assertion.holds before none]
  | _, [] => []

/-- `n` steps, or as many as it takes until a step changes nothing. -/
def iterate (step : Marks → Marks) : Nat → Marks → Marks
  | 0, m => m
  | n + 1, m =>
    let next := step m
    if next == m then m else iterate step n next

/-- The positions within `n` steps of `seen`, where `front` are those of `seen` that no step was
taken from yet. -/
def spread (step : Marks → Marks) : Nat → Marks → Marks → Marks
  | 0, seen, _ => seen
  | n + 1, seen, front =>
    let next := minus (step front) seen
    if next.isMarked then spread step n (join seen next) next else seen

end Marks

/-- The positions where a stretch that begins at a marked one can end. -/
def reach (t : Text) : Regex → Marks → Marks
  | empty, m => m
  | one chars, m => m.advance chars t
  | look assertion, m => m.keep assertion none t
  | seq r s, m => reach t s (reach t r m)
  | alt r s, m => (reach t r m).join (reach t s m)
  | rep r least extra _, m =>
    let start := Marks.iterate (reach t r) least m
    Marks.spread (reach t r) (extra.getD t.length) start start
  | group _ r, m => reach t r m

def occursIn (r : Regex) (t : Text) : Bool :=
  (reach t r (Marks.everywhere t)).isMarked

end ContentFilter.Regex
