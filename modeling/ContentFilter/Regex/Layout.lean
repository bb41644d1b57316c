import ContentFilter.Regex.Basic
import ContentFilter.Unicode.Ranges
/-!
Expressions as they are laid out: sets are ranges, characters that follow one another are strings,
and sequences and choices stand on one level each. Among such expressions the plainest is taken,
so that an expression and what it can be shortened to are laid out alike.

Sequences and choices are nested to the right only. The functions below that build them keep it so.
-/
namespace ContentFilter.Regex

open Unicode (Ranges ByteRange ByteSequence)

inductive Layout
  | empty
  | look (assertion : Look)
  /-- One character after another. There is one at least. -/
  | literal (text : Text)
  /-- One character of a set, given by its ranges and by the bytes of its characters. -/
  | one (ranges : Ranges) (bytes : List ByteSequence)
  | seq (r s : Layout)
  | alt (r s : Layout)
  | rep (r : Layout) (least : Nat) (most : Option Nat) (greedy : Bool)
  /-- A group with a number. -/
  | group (number : Nat) (r : Layout)
  deriving DecidableEq, Repr

namespace Layout

/-- A character of a set. A set of a single one is a string. -/
def ofRanges (ranges : Ranges) : Layout :=
  match ranges with
  | [(first, last)] =>
    if first == last then literal [Char.ofNat first] else one ranges (ByteRange.sequences ranges)
  | ranges => one ranges (ByteRange.sequences ranges)

/-- The same, where the cases of one letter are found without going through all classes. -/
def ofSet : CharSet → Layout
  | .folded folding (.range first last) =>
    if first == last then ofRanges (.ofCodes ((folding.variants first).map (·.toNat)))
    else ofRanges (CharSet.folded folding (.range first last)).ranges
  | s => ofRanges s.ranges

def isWidthless : Layout → Bool
  | empty | look _ => true
  | literal _ | one _ _ => false
  | seq r s | alt r s => r.isWidthless && s.isWidthless
  | rep r _ _ _ => r.isWidthless
  | group _ r => r.isWidthless

def leastBytes : Layout → Option Nat
  | empty | look _ => some 0
  | literal text => some (text.flatMap fun c => ByteRange.bytes c.toNat).length
  | one _ bytes => bytes.head?.map (·.length)
  | seq r s => do return (← r.leastBytes) + (← s.leastBytes)
  | alt r s => do return min (← r.leastBytes) (← s.leastBytes)
  | rep r least _ _ => r.leastBytes.map (least * ·)
  | group _ r => r.leastBytes

def beginsText : Layout → Bool
  | look assertion => assertion == .textStart
  | empty | literal _ | one _ _ => false
  | seq r s => r.beginsText || (r.isWidthless && s.beginsText)
  | alt r s => r.beginsText && s.beginsText
  | rep r least _ _ => least != 0 && r.beginsText
  | group _ r => r.beginsText

def endsText : Layout → Bool
  | look assertion => assertion == .textEnd
  | empty | literal _ | one _ _ => false
  | seq r s => s.endsText || (s.isWidthless && r.endsText)
  | alt r s => r.endsText && s.endsText
  | rep r least _ _ => least != 0 && r.endsText
  | group _ r => r.endsText

def prepend : Layout → Layout → Layout
  | literal s, literal t => literal (s ++ t)
  | literal s, seq (literal t) rest => seq (literal (s ++ t)) rest
  | r, empty => r
  | r, s => seq r s

def append : Layout → Layout → Layout
  | empty, t => t
  | seq r s, t => prepend r (append s t)
  | r, t => prepend r t

def sequence : List Layout → Layout
  | [] => empty
  | r :: rest => append r (sequence rest)

def elements? : Layout → Option (List Layout)
  | seq r s => some (r :: (s.elements?.getD [s]))
  | _ => none

def branches : Layout → List Layout
  | alt r s => r :: s.branches
  | r => [r]

/-- Repetition. What spans no character is not repeated more than once. -/
def repeated (r : Layout) (least : Nat) (most : Option Nat) (greedy : Bool) : Layout :=
  let (least, most) :=
    if r.isWidthless then (min least 1, some (min (most.getD 1) 1)) else (least, most)
  if most == some 0 then empty
  else if least == 1 && most == some 1 then r
  else rep r least most greedy

def singleChar? : Layout → Option Char
  | literal [c] => some c
  | _ => none

def ranges? : Layout → Option Ranges
  | one ranges _ => some ranges
  | _ => none

def oneOf? (choices : List Layout) : Option Layout :=
  match choices.mapM singleChar? with
  | some chars => some (ofRanges (.ofCodes (chars.map (·.toNat))))
  | none => (choices.mapM ranges?).map fun all => ofRanges (all.foldl Ranges.union [])

def commonPrefix : List Layout → List Layout → List Layout
  | a :: r, b :: s => if a == b then a :: commonPrefix r s else []
  | _, _ => []

def factored? (choices : List Layout) : Option (List Layout × List Layout) := do
  let first :: rest ← choices.mapM elements? | none
  let common := rest.foldl commonPrefix first
  if common.isEmpty then none
  else some (common, (first :: rest).map fun s => sequence (s.drop common.length))

def size : Layout → Nat
  | seq r s | alt r s => r.size + s.size + 1
  | rep r _ _ _ | group _ r => r.size + 1
  | empty | look _ | literal _ | one _ _ => 1

def choices : List Layout → Layout
  | [] => ofRanges []
  | [r] => r
  | r :: rest => alt r (choices rest)

/-- A choice. What all alternatives begin with is taken out, which leaves less of the first one
each time, and so the fuel of its size is enough. -/
def choose : Nat → List Layout → Layout
  | 0, alternatives => choices alternatives
  | fuel + 1, alternatives =>
    match alternatives.flatMap branches with
    | [r] => r
    | flat =>
      match oneOf? flat, factored? flat with
      | some r, _ => r
      | none, some (common, rest) => sequence (common ++ [choose fuel rest])
      | none, none => choices flat

def choice : List Layout → Layout
  | [r] => r
  | alternatives => choose (alternatives.foldr (size · + ·) 1) alternatives

end Layout

def alternatives : Regex → List Layout
  | empty => [.empty]
  | one chars => [.ofSet chars]
  | look assertion => [.look assertion]
  | seq r s => [(Layout.choice r.alternatives).append (Layout.choice s.alternatives)]
  | alt r s => Layout.choice r.alternatives :: s.alternatives
  | rep r least extra greedy =>
    [(Layout.choice r.alternatives).repeated least (extra.map (least + ·)) greedy]
  | group number r =>
    let body := Layout.choice r.alternatives
    [match number with
      | some n => .group n body
      | none => body]

def layout (r : Regex) : Layout := Layout.choice r.alternatives

end ContentFilter.Regex
