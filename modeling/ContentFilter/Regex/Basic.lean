import ContentFilter.Text.Basic
import ContentFilter.Unicode.Casing
import ContentFilter.Unicode.Word
/-!
Regular expressions and their meaning: the stretches of a text, from one position to another, that
an expression spans. Positions count the characters before them. An assertion is decided by the
characters next to a position, of which there is none before the start and after the end.
-/
namespace ContentFilter.Regex

/-- Which letters count as one: those of the same class under simple case folding, or the two
forms of an ASCII letter alone. -/
inductive Folding
  | simple | ascii
  deriving DecidableEq, Repr

def Folding.variants : Folding → Char → List Char
  | .simple, c => Unicode.sameCase c
  | .ascii, c => [c.toLower, c.toUpper, c]

def Folding.pairs : Folding → Unicode.CasePairs
  | .simple => Unicode.foldingPairs
  | .ascii => .ofRuns [⟨0x41, 0x5A, 1, 32⟩]

inductive CharSet
  | any
  | range (first last : Char)
  | table (ranges : Unicode.Ranges)
  | union (s t : CharSet)
  | inter (s t : CharSet)
  | compl (s : CharSet)
  /-- The characters that are in `s` but for their case. -/
  | folded (folding : Folding) (s : CharSet)
  deriving DecidableEq, Repr

namespace CharSet

def has : CharSet → Char → Bool
  | any, _ => true
  | range first last, c => first ≤ c && c ≤ last
  | table ranges, c => ranges.has c
  | union s t, c => s.has c || t.has c
  | inter s t, c => s.has c && t.has c
  | compl s, c => !s.has c
  | folded folding s, c => (folding.variants c).any s.has

def ranges : CharSet → Unicode.Ranges
  | any => Unicode.Ranges.compl []
  | range first last => Unicode.Ranges.inter [(first.toNat, last.toNat)] (Unicode.Ranges.compl [])
  | table ranges => ranges.joined
  | union s t => s.ranges.union t.ranges
  | inter s t => s.ranges.inter t.ranges
  | compl s => s.ranges.compl
  | folded folding s => folding.pairs.closure s.ranges

def none : CharSet := compl any

def single (c : Char) : CharSet := range c c

def unionAll : List CharSet → CharSet
  | [] => none
  | [s] => s
  | s :: rest => union s (unionAll rest)

def tables (all : List Unicode.Ranges) : CharSet := unionAll (all.map table)

def symmetricDifference (s t : CharSet) : CharSet :=
  inter (union s t) (compl (inter s t))

def newline : CharSet := single '\n'

def asciiDigit : CharSet := range '0' '9'

def asciiLower : CharSet := range 'a' 'z'

def asciiUpper : CharSet := range 'A' 'Z'

def asciiAlpha : CharSet := union asciiLower asciiUpper

def asciiAlnum : CharSet := union asciiAlpha asciiDigit

def asciiWord : CharSet := union asciiAlnum (single '_')

def asciiSpace : CharSet := union (range '\t' '\r') (single ' ')

def digit : CharSet := table Unicode.Category.decimalNumber

def word : CharSet := table Unicode.wordRanges

def space : CharSet := table Unicode.Property.whiteSpace

end CharSet

inductive WordSide
  | boundary | inside | start | stop | startHalf | stopHalf
  deriving DecidableEq, Repr

def WordSide.holds : WordSide → Bool → Bool → Bool
  | .boundary, before, after => before != after
  | .inside, before, after => before == after
  | .start, before, after => !before && after
  | .stop, before, after => before && !after
  | .startHalf, before, _ => !before
  | .stopHalf, _, after => !after

inductive Look
  | textStart | textEnd | lineStart | lineEnd
  /-- Line ends that know the carriage return and never part it from its line feed. -/
  | crlfStart | crlfEnd
  | word (letters : CharSet) (side : WordSide)
  deriving DecidableEq, Repr

def CharSet.hasNext (s : CharSet) (c : Option Char) : Bool := c.any s.has

def Look.holds (before after : Option Char) : Look → Bool
  | textStart => before.isNone
  | textEnd => after.isNone
  | lineStart => before.isNone || before == some '\n'
  | lineEnd => after.isNone || after == some '\n'
  | crlfStart =>
    before.isNone || before == some '\n' || (before == some '\r' && after != some '\n')
  | crlfEnd => after.isNone || after == some '\r' || (after == some '\n' && before != some '\r')
  | word letters side => side.holds (letters.hasNext before) (letters.hasNext after)

end ContentFilter.Regex

namespace ContentFilter

inductive Regex
  /-- The empty stretch. -/
  | empty
  /-- One character of a set. -/
  | one (chars : Regex.CharSet)
  /-- The empty stretch where an assertion holds. -/
  | look (assertion : Regex.Look)
  | seq (r s : Regex)
  | alt (r s : Regex)
  /-- At least `least` times `r`, and up to `extra` times more where that is given. Which of two
  stretches a greedy repetition prefers has no bearing on what it spans. -/
  | rep (r : Regex) (least : Nat) (extra : Option Nat) (greedy : Bool)
  /-- An expression in parentheses, which may have a number to call it by. -/
  | group (number : Option Nat) (r : Regex)
  deriving DecidableEq, Repr

namespace Regex

def before (t : Text) : Nat → Option Char
  | 0 => none
  | i + 1 => t[i]?

def Steps (R : Nat → Nat → Prop) : Nat → Nat → Nat → Prop
  | 0, i, j => i = j
  | n + 1, i, j => ∃ k, R i k ∧ Steps R n k j

/-- The stretch of `t` from `i` to `j` is one that `r` describes. -/
def Spans (t : Text) : Regex → Nat → Nat → Prop
  | empty, i, j => i = j
  | one chars, i, j => j = i + 1 ∧ ∃ c, t[i]? = some c ∧ chars.has c = true
  | look assertion, i, j => i = j ∧ assertion.holds (before t i) t[i]? = true
  | seq r s, i, j => ∃ k, Spans t r i k ∧ Spans t s k j
  | alt r s, i, j => Spans t r i j ∨ Spans t s i j
  | rep r least extra _, i, j =>
    ∃ n, least ≤ n ∧ (∀ m, extra = some m → n ≤ least + m) ∧ Steps (Spans t r) n i j
  | group _ r, i, j => Spans t r i j

def OccursIn (r : Regex) (t : Text) : Prop :=
  ∃ i j, i ≤ t.length ∧ Spans t r i j

def never : Regex := one .none

def seqAll : List Regex → Regex
  | [] => empty
  | [r] => r
  | r :: rest => seq r (seqAll rest)

def altAll : List Regex → Regex
  | [] => never
  | [r] => r
  | r :: rest => alt r (altAll rest)

def star (r : Regex) : Regex := rep r 0 none true

def optional (r : Regex) : Regex := rep r 0 (some 1) true

end Regex

end ContentFilter
