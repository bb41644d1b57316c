import ContentFilter.Regex.Room.Automaton
/-!
Whether an expression keeps within the room for automata. What is a choice between a few strings in
effect, however it is written, or between thousands of them, is searched for without an automaton.
The strings are found as the first bytes of what an expression spans; where nothing follows these
bytes they are all that is spanned.
-/
namespace ContentFilter.Regex.Room

open Unicode (Ranges ByteRange ByteSequence)

structure Prefix where
  bytes : List Nat
  /-- Nothing follows the bytes. -/
  whole : Bool
  deriving DecidableEq, Repr

def Prefix.cut (length : Nat) (p : Prefix) : Prefix :=
  if p.bytes.length ≤ length then p else { bytes := p.bytes.take length, whole := false }

def Prefix.opened (p : Prefix) : Prefix := { p with whole := false }

/-- What all that is spanned begins with, in the order of preference. It is not known where there
would be too many. -/
abbrev Prefixes := Option (List Prefix)

namespace Prefixes

def most : Nat := 250

def withoutRepeats : List Prefix → List Prefix
  | [] => []
  | p :: rest =>
    match withoutRepeats rest with
    | [] => [p]
    | q :: others =>
      if p.bytes == q.bytes then { p with whole := p.whole && q.whole } :: others
      else p :: q :: others

def start : Prefixes := some [{ bytes := [], whole := true }]

def ofSet (ranges : Ranges) : Prefixes :=
  if 10 < ranges.foldl (fun count (first, last) => count + (last + 1 - first)) 0 then none
  else some (ranges.flatMap fun (first, last) =>
    (List.range' first (last + 1 - first)).map fun n => ⟨ByteRange.bytes n, true⟩)

/-- Nothing more is known by what follows. -/
def isOpen (ps : Prefixes) : Bool := ps.all fun all => all.all (!·.whole)

def opened (ps : Prefixes) : Prefixes := ps.map fun all => all.map Prefix.opened

def andThen (first second : Prefixes) : Prefixes := do
  let fronts ← first
  let crossed ← match second.filter fun backs => fronts.length * backs.length ≤ most with
    | none => if fronts.any (·.bytes.isEmpty) then none else some (fronts.map Prefix.opened)
    | some backs => some (withoutRepeats (fronts.flatMap fun front =>
        if front.whole then
          backs.map fun back => { bytes := front.bytes ++ back.bytes, whole := back.whole }
        else [front]))
  return crossed.map (·.cut 100)

def sequence (elements : List Prefixes) : Prefixes :=
  elements.foldl (fun front next => if front.isOpen then front else front.andThen next) start

/-- What either of two expressions begins with. Where these are too many they are cut short. -/
def orElse (first second : Prefixes) : Prefixes := do
  let left ← first
  let right ← second
  if left.length + right.length ≤ most then return withoutRepeats (left ++ right)
  let left := withoutRepeats (left.map (·.cut 4))
  let right := withoutRepeats (right.map (·.cut 4))
  if left.length + right.length ≤ most then return withoutRepeats (left ++ right)
  none

def choice (branches : List Prefixes) : Prefixes := branches.foldl orElse (some [])

def repeated (ps : Prefixes) (least : Nat) (most : Option Nat) (greedy : Bool) : Prefixes :=
  if least == 0 then
    let once := if most == some 1 then ps else ps.opened
    if greedy then once.orElse start else start.orElse once
  else
    let copies := sequence (List.replicate (min least 10) ps)
    if most == some least && least ≤ 10 then copies else copies.opened

/-- Leaves out those that a preferred one is a beginning of. -/
def distinct : List Prefix → List Prefix
  | [] => []
  | p :: rest => p :: (distinct rest).filter fun q => !p.bytes.isPrefixOf q.bytes

def commonBytes : List Nat → List Nat → List Nat
  | a :: r, b :: s => if a == b then a :: commonBytes r s else []
  | _, _ => []

def isFrequent (byte : Nat) : Bool :=
  0xC0 ≤ byte || ("\n\r (),-./0129:_abcdefghilmnoprstuvxy|".toList.map (·.toNat)).contains byte

def isPoor (p : Prefix) : Bool :=
  match p.bytes with
  | [byte] => 0xC0 ≤ byte || ([' ', 'e', 't'].map (·.toNat)).contains byte
  | _ => false

/-- Cuts all to so many bytes as long as there are more than enough of them. -/
def fewer : List (Nat × Nat) → List Prefix → List Prefix
  | [], all => all
  | (length, enough) :: rest, all =>
    if all.length ≤ enough then all else fewer rest (distinct (all.map (·.cut length)))

/-- What is best searched for. Few strings are, or what they have in common; but whole strings are
kept where what is left of them would be too short, too many or too common. -/
def best (all : List Prefix) : Prefixes := do
  if all.any (·.bytes.isEmpty) then none
  let kept := distinct all
  let common := match kept.map (·.bytes) with
    | [] => []
    | first :: rest => rest.foldl commonBytes first
  if 1 < all.length && 0 < common.length && common.length ≤ 3 && !common.head?.any isFrequent then
    return withoutRepeats (kept.map (·.cut 1))
  let isFast := kept.all (·.whole) && kept.length ≤ 16
  let kept :=
    if 4 < common.length || (1 < common.length && !isFast) then
      withoutRepeats (kept.map (·.cut common.length))
    else kept
  let fewest := fewer [(5, 10), (4, 10), (3, 64), (2, 64), (1, 10)] kept
  let poor := fewest.any isPoor
  if kept.all (·.whole) && (poor || 64 < fewest.length || fewest.any (·.bytes.length ≤ 2)) then
    return kept
  if poor then none else return fewest

end Prefixes

structure Beginnings where
  whole : Prefixes
  elements : List Prefixes
  branches : List Prefixes

def Beginnings.ofOne (ps : Prefixes) : Beginnings :=
  { whole := ps, elements := [ps], branches := [ps] }

def beginnings : Layout → Beginnings
  | .empty | .look _ => .ofOne .start
  | .literal text => .ofOne (some [Prefix.cut 100 { bytes := utf8 text, whole := true }])
  | .one ranges _ => .ofOne (.ofSet ranges)
  | .seq r s =>
    let elements := (beginnings r).whole :: (beginnings s).elements
    let whole := Prefixes.sequence elements
    { whole, elements, branches := [whole] }
  | .alt r s =>
    let branches := (beginnings r).whole :: (beginnings s).branches
    let whole := Prefixes.choice branches
    { whole, elements := [whole], branches }
  | .rep r least most greedy => .ofOne ((beginnings r).whole.repeated least most greedy)
  | .group _ r => .ofOne (beginnings r).whole

def isPlain : Layout → Bool
  | .empty | .literal _ | .one _ _ => true
  | .look _ | .group _ _ => false
  | .seq r s | .alt r s => isPlain r && isPlain s
  | .rep r _ _ _ => isPlain r

/-- Strings are searched for in place of the expression. -/
def isStrings (r : Layout) : Bool :=
  isPlain r &&
    ((((beginnings r).whole.map Prefixes.withoutRepeats).bind Prefixes.best).any (fun all =>
        !all.isEmpty && all.all fun p => p.whole && !p.bytes.isEmpty) ||
      (strings? r).any (3000 ≤ ·.length))

/-- No less than a set takes, whichever way its bytes are read. -/
def setAtMost (ranges : Ranges) (bytes : List ByteSequence) : Nat :=
  64 + 8 * ranges.length + 4 * bytes.length + 40 * bytes.flatten.length

/-- No less than an expression takes in either automaton. -/
def atMost : Layout → Nat
  | .empty | .look _ => 32
  | .literal text => 76 * (utf8 text).length
  | .one ranges bytes => setAtMost ranges bytes
  | .seq r s => atMost r + atMost s + 4
  | .alt r s => atMost r + atMost s + 84
  | .rep r least most _ => (atMost r + 44) * max least (most.getD 1) + 80
  | .group _ r => atMost r + 68

/-- No less than an automaton takes besides the states of its expression. -/
def surrounds : Nat := 216

/-- Whether an expression is searched for as strings or both of its automata keep within the limit.
They are not built where they are known to. -/
@[irreducible] def fits (r : Regex) : Bool :=
  atMost r.layout + surrounds ≤ limit || isStrings r.layout ||
    [Direction.forward, .backward].all fun d => ((automaton d r.layout).run {}).isSome

end ContentFilter.Regex.Room
