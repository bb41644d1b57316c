import ContentFilter.Regex.Layout
import Std.Data.HashMap
/-!
The automata of an expression, which read the bytes of UTF-8 forwards or backwards. Of their states
only as much is kept as decides how much room they take: how many there are, and what the lists in
them take. Growth stops at a limit, and what is built after that is not built at all.

Repetition copies its body. Sequences of byte ranges share the states that they end in, or begin in
when the bytes are read backwards, as far as a table of former states has room for them. A choice
between strings shares the states of their common beginnings.
-/
namespace ContentFilter.Regex.Room

open Unicode (Ranges ByteRange ByteSequence)

structure Extent where
  states : Nat := 0
  /-- The bytes of the lists of transitions and of branches. -/
  lists : Nat := 0
  deriving DecidableEq, Repr

def stateBytes : Nat := 32

def transitionBytes : Nat := 8

def branchBytes : Nat := 4

def Extent.room (e : Extent) : Nat := stateBytes * e.states + e.lists

def limit : Nat := 10 * (1 <<< 20)

abbrev Growth := StateT Extent Option

def grow (states lists : Nat) : Growth Unit := fun e =>
  let e := { states := e.states + states, lists := e.lists + lists }
  if e.room ≤ limit then some ((), e) else none

def newState (list : Nat) : Growth Nat := fun e => (grow 1 list e).map fun (_, e') => (e.states, e')

def newStates (count : Nat) : Growth Unit := grow count 0

/-- Leads on from a state. Only a fork keeps a list of where it leads to. -/
def link (fork : Bool) : Growth Unit := grow 0 (if fork then branchBytes else 0)

/-- States that were made before, each in the slot of its hash with what it was made from. A slot
holds the newest one alone. -/
abbrev Cache (α : Type) := Std.HashMap Nat (α × Nat)

def cached {α : Type} [BEq α] (slot : Nat) (key : α) (list : Nat) :
    StateT (Cache α) Growth Nat := fun cache =>
  match cache[slot]? with
  | some (known, state) => if key == known then pure (state, cache) else make cache
  | none => make cache
where
  make (cache : Cache α) : Growth (Nat × Cache α) := do
    let state ← newState list
    pure (state, cache.insert slot (key, state))

def hashStart : UInt64 := 14695981039346656037

def hashWith (hash : UInt64) (n : Nat) : UInt64 := (hash ^^^ n.toUInt64) * 1099511628211

structure Transition where
  range : ByteRange
  next : Nat
  deriving DecidableEq

def Transition.hash (hash : UInt64) (t : Transition) : UInt64 :=
  hashWith (hashWith (hashWith hash t.range.1) t.range.2) t.next

def byFirst : List ByteSequence → List (ByteRange × List ByteSequence)
  | [] => []
  | [] :: rest => byFirst rest
  | (range :: tail) :: rest =>
    match byFirst rest with
    | (next, tails) :: groups =>
      if range == next then (range, tail :: tails) :: groups
      else (range, [tail]) :: (next, tails) :: groups
    | [] => [(range, [tail])]

def startOf (last : Nat) : Nat → List ByteSequence → StateT (Cache (List Transition)) Growth Nat
  | 0, _ => pure last
  | depth + 1, sequences => do
    let groups := byFirst sequences
    let transitions ← groups.mapM fun (range, tails) => do
      let next ← if tails.all List.isEmpty then pure last else startOf last depth tails
      pure (Transition.mk range next)
    let hash := transitions.foldl Transition.hash hashStart
    cached (hash.toNat % 10000) transitions (transitionBytes * groups.length)

def classForward (bytes : List ByteSequence) : Growth Unit := do
  let last ← newState 0
  let _ ← (startOf last 4 bytes).run {}

def stateBefore (last : Nat) (range : ByteRange) : StateT (Cache Transition) Growth Nat :=
  let hash := hashWith (hashWith (hashWith hashStart last) range.1) range.2
  cached (hash.toNat % 1000) (Transition.mk range last) 0

/-- A set whose characters are read backwards: a fork with a branch for each sequence. -/
def classBackward (bytes : List ByteSequence) : Growth Unit := do
  let _ ← newState 0
  let last ← newState 0
  let _ ← (bytes.forM fun sequence => do
    let _ ← sequence.foldlM stateBefore last
    link true : StateT (Cache Transition) Growth Unit).run {}

def classAscii (ranges : Ranges) : Growth Unit := do
  newStates 1
  let _ ← newState (transitionBytes * ranges.length)

def isAscii (ranges : Ranges) : Bool := ranges.all (·.2 < 128)

/-- The strings between those that are empty, which mark an end. -/
def betweenEnds : List (List Nat) → List (List (List Nat))
  | [] => [[]]
  | [] :: rest => [] :: betweenEnds rest
  | string :: rest =>
    match betweenEnds rest with
    | [] => [[string]]
    | part :: parts => (string :: part) :: parts

/-- An end right after an end says nothing new as long as no string goes on. -/
def dropRepeatedEnds : List (List Nat) → List (List Nat)
  | [] :: [] :: rest => dropRepeatedEnds ([] :: rest)
  | strings => strings

def addRest (byte : Nat) (rest : List Nat) :
    List (Nat × List (List Nat)) → List (Nat × List (List Nat))
  | [] => [(byte, [rest])]
  | (other, rests) :: groups =>
    if byte == other then (other, rest :: rests) :: groups
    else (other, rests) :: addRest byte rest groups

def byFirstByte : List (List Nat) → List (Nat × List (List Nat))
  | [] => []
  | [] :: strings => byFirstByte strings
  | (byte :: rest) :: strings => addRest byte rest (byFirstByte strings)

/-- A state with a transition for each first byte, after the states of what follows these. -/
def followerStates (below : List (List Nat) → Growth Unit)
    (followers : List (Nat × List (List Nat))) : Growth Unit := do
  followers.forM fun (_, rests) => below rests
  match followers with
  | [] => pure ()
  | [_] => newStates 1
  | followers => grow 1 (transitionBytes * followers.length)

/-- The states of strings of fewer than `depth` bytes. A fork leads to the parts and to the ends
between them. -/
def stringStates : Nat → List (List Nat) → Growth Unit
  | 0, _ => pure ()
  | depth + 1, strings => do
    if strings.all List.isEmpty then return
    let parts := betweenEnds (dropRepeatedEnds strings)
    parts.forM fun part => followerStates (stringStates depth) (byFirstByte part)
    let filled := (parts.filter fun part => !part.isEmpty).length
    grow 1 (branchBytes * (filled + (parts.length - 1)))

def choiceOfStrings (strings : List (List Nat)) : Growth Unit := do
  newStates 1
  stringStates ((strings.map List.length).foldl max 0 + 1) strings

inductive Direction
  | forward | backward
  deriving DecidableEq, Repr

abbrev Part := Growth Bool

def Direction.order {α : Type} : Direction → List α → List α
  | .forward, l => l
  | .backward, l => l.reverse

def utf8 (text : Text) : List Nat := text.flatMap fun c => ByteRange.bytes c.toNat

def Part.andThen (first second : Part) : Part := do
  let fork ← first
  let fork' ← second
  link fork
  pure fork'

def Part.again (body : Part) : Nat → Bool → Part
  | 0, fork => pure fork
  | n + 1, fork => do
    let fork' ← body
    link fork
    body.again n fork'

/-- So many copies of a part. None is a state that does nothing. -/
def Part.copies (body : Part) : Nat → Part
  | 0 => do
    newStates 1
    pure false
  | n + 1 => do
    let fork ← body
    body.again n fork

def Part.optionals (body : Part) : Nat → Bool → Part
  | 0, fork => pure fork
  | n + 1, fork => do
    newStates 1
    let fork' ← body
    link fork
    grow 0 (2 * branchBytes)
    body.optionals n fork'

def Part.optional (body : Part) : Part := do
  newStates 1
  let fork ← body
  newStates 1
  grow 0 (2 * branchBytes)
  link fork
  pure false

/-- A part any number of times. Where it may read nothing, its end is kept apart from its start. -/
def Part.star (body : Part) (readsAlways : Bool) : Part :=
  if readsAlways then do
    newStates 1
    let fork ← body
    link true
    link fork
    pure true
  else do
    let fork ← body
    newStates 3
    link fork
    grow 0 (4 * branchBytes)
    pure false

def Part.atLeast (body : Part) (least : Nat) : Part := do
  let fork ← body.copies least
  newStates 1
  link fork
  link true
  pure true

def Part.between (body : Part) (least most : Nat) : Part := do
  let fork ← body.copies least
  if most == least then pure fork
  else
    newStates 1
    let fork' ← body.optionals (most - least) fork
    link fork'
    pure false

def Part.repeated (body : Part) (readsAlways : Bool) : Nat → Option Nat → Part
  | 0, none => body.star readsAlways
  | 0, some 1 => body.optional
  | least, none => body.atLeast least
  | least, some most => body.between least most

inductive Rank
  | first | second | later
  deriving DecidableEq, Repr

/-- Ties an alternative to the fork before all of them and the state after them. These two are made
with the second one. -/
def Rank.tie (rank : Rank) (fork : Bool) : Part := do
  match rank with
  | .first => pure fork
  | rank =>
    if rank == .second then newStates 2
    link true
    link fork
    pure false

def setStates (d : Direction) (ranges : Ranges) (bytes : List ByteSequence) : Growth Unit :=
  if isAscii ranges then classAscii ranges
  else match d with
    | .forward => classForward bytes
    | .backward => classBackward bytes

def strings? : Layout → Option (List Text)
  | .alt (.literal s) (.literal t) => some [s, t]
  | .alt (.literal s) rest => (strings? rest).map (s :: ·)
  | _ => none

def part (d : Direction) : Layout → Rank → Part
  | .alt r s, rank =>
    match rank, strings? (.alt r s) with
    | .first, some strings => do
      choiceOfStrings (strings.map fun s => d.order (utf8 s))
      pure false
    | .first, none => do
      let fork ← part d r .first
      link true
      link fork
      part d s .second
    | rank, _ => do
      let fork ← part d r .first
      let _ ← rank.tie fork
      part d s .later
  | .empty, rank | .look _, rank => do
    newStates 1
    rank.tie false
  | .literal text, rank => do
    newStates (utf8 text).length
    rank.tie false
  | .one ranges bytes, rank => do
    setStates d ranges bytes
    rank.tie false
  | .seq r s, rank => do
    let fork ← match d with
      | .forward => Part.andThen (part d r .first) (part d s .first)
      | .backward => Part.andThen (part d s .first) (part d r .first)
    rank.tie fork
  | .rep r least most _, rank => do
    let readsAlways := r.leastBytes.any (0 < ·)
    let fork ← Part.repeated (part d r .first) readsAlways least most
    rank.tie fork
  | .group _ r, rank => do
    let fork ← match d with
      | .forward => bracketed (part d r .first)
      | .backward => part d r .first
    rank.tie fork
where
  /-- A part between two states that record where it begins and ends. -/
  bracketed (body : Part) : Part := do
    newStates 1
    let fork ← body
    newStates 1
    link fork
    pure false

/-- The whole automaton. It may begin anywhere, unless the expression says where. -/
def automaton (d : Direction) (r : Layout) : Growth Unit := do
  let anchored := match d with
    | .forward => r.beginsText
    | .backward => r.endsText
  if anchored then newStates 1
  else
    newStates 3
    grow 0 (transitionBytes + 2 * branchBytes)
  let fork ← match d with
    | .forward => part.bracketed (part d r .first)
    | .backward => part d r .first
  newStates 1
  link fork

end ContentFilter.Regex.Room
