/-!
Sets of characters as ranges of code points, in ascending order and apart from each other; the
UTF-8 forms of such a range byte by byte; and the runs of code points that a case mapping shifts by
one distance. Sets have characters only: the surrogates are in none of them.
-/
namespace ContentFilter.Unicode

abbrev Ranges := List (Nat × Nat)

namespace Ranges

/-- Looks no further than the first range that begins after the code point. -/
def hasCode : Ranges → Nat → Bool
  | [], _ => false
  | (first, last) :: rest, n => if n < first then false else n ≤ last || hasCode rest n

def has (ranges : Ranges) (c : Char) : Bool := ranges.hasCode c.toNat

def joinFrom (first last : Nat) : Ranges → Ranges
  | [] => [(first, last)]
  | (a, b) :: rest =>
    if a ≤ last + 1 then joinFrom first (max last b) rest else (first, last) :: joinFrom a b rest

def joined : Ranges → Ranges
  | [] => []
  | (first, last) :: rest => joinFrom first last rest

def merged {α : Type} (code : α → Nat) : List α → List α → List α
  | [], l => l
  | a :: rest, l =>
    l.takeWhile (code · < code a) ++ a :: merged code rest (l.dropWhile (code · < code a))

def mergedPairs {α : Type} (code : α → Nat) : List (List α) → List (List α)
  | first :: second :: rest => merged code first second :: mergedPairs code rest
  | rest => rest

/-- Each round of merging halves the number of lists. -/
def ascending {α : Type} (code : α → Nat) (elements : List α) : List α :=
  (Nat.repeat (mergedPairs code) (elements.length.log2 + 1) (elements.map ([·]))).flatten

def ofCodes (codes : List Nat) : Ranges :=
  joined (ascending Prod.fst (codes.map fun n => (n, n)))

def select {α : Type} (code : α → Nat) : List α → Ranges → List α
  | [], _ => []
  | a :: rest, ranges =>
    match ranges.dropWhile (·.2 < code a) with
    | [] => []
    | (first, last) :: later =>
      if code a < first then select code rest ((first, last) :: later)
      else a :: select code rest ((first, last) :: later)

def union (r s : Ranges) : Ranges := joined (merged Prod.fst r s)

def gapsFrom (start : Nat) : Ranges → Ranges
  | [] => if start ≤ 0x10FFFF then [(start, 0x10FFFF)] else []
  | (first, last) :: rest =>
    if start < first then (start, first - 1) :: gapsFrom (last + 1) rest
    else gapsFrom (last + 1) rest

def surrogates : Ranges := [(0xD800, 0xDFFF)]

def compl (r : Ranges) : Ranges := gapsFrom 0 (union r surrogates)

def inter (r s : Ranges) : Ranges := compl (union (compl r) (compl s))

end Ranges

abbrev ByteRange := Nat × Nat

abbrev ByteSequence := List ByteRange

namespace ByteRange

def cutAfter (limit : Nat) (range : Nat × Nat) : Ranges :=
  if range.1 ≤ limit && limit < range.2 then [(range.1, limit), (limit + 1, range.2)] else [range]

/-- Cuts off what does not fill whole blocks of `block` code points at either end. -/
def cutBlocks (block : Nat) (range : Nat × Nat) : Ranges :=
  let (first, last) := range
  if last ≤ 0x7F || first / block == last / block then [range]
  else
    let start := if first % block == 0 then first else (first / block + 1) * block
    let upto := if last % block == block - 1 then last + 1 else last / block * block
    (if first < start then [(first, start - 1)] else []) ++
      (if start < upto then [(start, upto - 1)] else []) ++
      (if upto ≤ last then [(upto, last)] else [])

/-- The ranges in which each byte runs through all of its values whatever the bytes before it
are. -/
def regular (range : Nat × Nat) : Ranges :=
  let even := [0x7F, 0x7FF, 0xFFFF].foldl (fun rs limit => rs.flatMap (cutAfter limit)) [range]
  [0x40, 0x1000, 0x40000].foldl (fun rs block => rs.flatMap (cutBlocks block)) even

def bytes (n : Nat) : List Nat :=
  if n ≤ 0x7F then [n]
  else if n ≤ 0x7FF then [0xC0 + n / 0x40, 0x80 + n % 0x40]
  else if n ≤ 0xFFFF then [0xE0 + n / 0x1000, 0x80 + n / 0x40 % 0x40, 0x80 + n % 0x40]
  else [0xF0 + n / 0x40000, 0x80 + n / 0x1000 % 0x40, 0x80 + n / 0x40 % 0x40, 0x80 + n % 0x40]

def sequences (ranges : Ranges) : List ByteSequence :=
  (ranges.flatMap regular).map fun (first, last) => (bytes first).zip (bytes last)

end ByteRange

/-- The code points `first`, `first + step`, … up to `last`, each mapped `shift` further. -/
structure CaseRun where
  first : Nat
  last : Nat
  step : Nat
  shift : Int
  deriving DecidableEq, Repr

namespace CaseRun

def covers (run : CaseRun) (n : Nat) : Bool :=
  run.first ≤ n && n ≤ run.last && (n - run.first) % run.step == 0

def apply (run : CaseRun) (n : Nat) : Nat := (Int.ofNat n + run.shift).toNat

def source? (run : CaseRun) (n : Nat) : Option Nat :=
  let m := (Int.ofNat n - run.shift).toNat
  if run.covers m && run.apply m == n then some m else none

def pairs (run : CaseRun) : List (Nat × Nat) :=
  (List.range ((run.last - run.first) / run.step + 1)).map fun i =>
    let n := run.first + i * run.step
    (n, run.apply n)

def image (runs : List CaseRun) (n : Nat) : Nat :=
  match runs.find? (·.covers n) with
  | some run => run.apply n
  | none => n

def sources (runs : List CaseRun) : Ranges :=
  Ranges.ofCodes (runs.flatMap fun run => run.pairs.map (·.1))

def images (runs : List CaseRun) : Ranges :=
  Ranges.ofCodes (runs.flatMap fun run => run.pairs.map (·.2))

end CaseRun

/-- Pairs of a letter and the one that stands for its class, in the order of the letters and in
that of the classes. -/
structure CasePairs where
  bySource : List (Nat × Nat)
  byImage : List (Nat × Nat)

namespace CasePairs

def ofRuns (runs : List CaseRun) : CasePairs :=
  let pairs := runs.flatMap (·.pairs)
  { bySource := Ranges.ascending Prod.fst pairs
    byImage := Ranges.ascending Prod.snd pairs }

/-- A set with the whole classes of its characters. -/
def closure (pairs : CasePairs) (ranges : Ranges) : Ranges :=
  let touched :=
    Ranges.select (·.1) pairs.bySource ranges ++ Ranges.select (·.2) pairs.byImage ranges
  let classes := Ranges.ofCodes (touched.map (·.2))
  let members := (Ranges.select (·.2) pairs.byImage classes).flatMap fun (c, f) => [c, f]
  ranges.union (Ranges.ofCodes (members.filter fun n => !ranges.hasCode n))

end CasePairs

end ContentFilter.Unicode
