import ContentFilter.Regex.Reader.Class
/-!
Reading regular expressions. `Regex.read?` gives the expression that a text writes, or nothing if
the text is not well formed. Groups that are still open are kept on a stack, so that any depth can
be read and the depth be judged afterwards.
-/
namespace ContentFilter.Regex

namespace Reader

structure Piece where
  regex : Regex
  height : Nat := 0
  repeatable : Bool := true

/-- The alternatives of a group that are complete and the pieces of the one that is not, both with
the newest first. -/
structure Branches where
  alternatives : List Piece := []
  pieces : List Piece := []

/-- A group around the one that is being read, the flags that hold in it, and the number of the
one that is being read. -/
structure Outer where
  branches : Branches
  flags : Flags
  number : Option Nat

structure State where
  flags : Flags := {}
  names : List Text := []
  /-- The numbered groups that are begun. -/
  groups : Nat := 0
  branches : Branches := {}
  outer : List Outer := []

def sequence : List Piece → Piece
  | [] => { regex := .empty, repeatable := false }
  | [piece] => piece
  | pieces =>
    { regex := .seqAll (pieces.reverse.map (·.regex))
      height := maxHeight (pieces.map (·.height)) + 1 }

def Branches.finish (b : Branches) : Piece :=
  match sequence b.pieces :: b.alternatives with
  | [piece] => piece
  | pieces =>
    { regex := .altAll (pieces.reverse.map (·.regex))
      height := maxHeight (pieces.map (·.height)) + 1 }

def State.push (st : State) (piece : Piece) : State :=
  { st with branches := { st.branches with pieces := piece :: st.branches.pieces } }

def State.alternate (st : State) : State :=
  { st with branches :=
      { alternatives := sequence st.branches.pieces :: st.branches.alternatives } }

def State.openGroup (st : State) (flags : Flags) (number : Option Nat) : State :=
  { st with flags, branches := {}, outer := ⟨st.branches, st.flags, number⟩ :: st.outer }

def State.openNumbered (st : State) : State :=
  { st.openGroup st.flags (some (st.groups + 1)) with groups := st.groups + 1 }

def State.closeGroup (st : State) : Option State :=
  match st.outer with
  | [] => none
  | outer :: rest =>
    let group := st.branches.finish
    some (State.push { st with flags := outer.flags, branches := outer.branches, outer := rest }
      { regex := .group outer.number group.regex, height := group.height + 1 })

def State.repeated (st : State) (least : Nat) (extra : Option Nat) (greedy : Bool) :
    Option State :=
  match st.branches.pieces with
  | piece :: pieces =>
    if !piece.repeatable then none
    else
      let whole := { regex := .rep piece.regex least extra greedy, height := piece.height + 1 }
      some { st with branches := { st.branches with pieces := whole :: pieces } }
  | [] => none

def State.repeatBefore (st : State) (least : Nat) (extra : Option Nat) (s : Text) :
    Option (State × Text) :=
  match s with
  | '?' :: r => (st.repeated least extra st.flags.swapGreed).map (·, r)
  | s => (st.repeated least extra !st.flags.swapGreed).map (·, s)

def lookAroundMarks : List Text := ["?=".toList, "?!".toList, "?<=".toList, "?<!".toList]

def isNameStart (c : Char) : Bool := c == '_' || Unicode.Latest.isAlphabetic c

def isNameRest (c : Char) : Bool :=
  isNameStart c || c == '.' || c == '[' || c == ']' || Unicode.Latest.isNumber c

def isGroupName : Text → Bool
  | [] => false
  | c :: r => isNameStart c && r.all isNameRest

def State.openNamed (st : State) (s : Text) : Option (State × Text) :=
  match s.span (· != '>') with
  | (name, '>' :: rest) =>
    if isGroupName name && !st.names.contains name then
      some ({ st.openNumbered with names := name :: st.names }, rest)
    else none
  | _ => none

def State.parenthesis (st : State) (s : Text) : Option (State × Text) :=
  let s := skip st.flags.verbose s
  if lookAroundMarks.any (·.isPrefixOf s) then none
  else match s with
    | '?' :: 'P' :: '<' :: r => st.openNamed r
    | '?' :: '<' :: r => st.openNamed r
    | '?' :: r =>
      match readFlags [] false false r with
      | none => none
      | some (changes, stop, rest) =>
        let flags := changes.foldl Flags.set st.flags
        if stop == ':' then some (st.openGroup flags none, rest)
        else if changes.isEmpty then none
        else some ({ st.push { regex := .empty, repeatable := false } with flags }, rest)
    | s => some (st.openNumbered, s)

def Flags.literal (flags : Flags) (c : Char) : Regex := .one (flags.fold (.single c))

def Flags.dot (flags : Flags) : CharSet :=
  if flags.dotAll then .any
  else if flags.crlf then .compl (.union (.single '\r') .newline)
  else .compl .newline

def Flags.lineStart (flags : Flags) : Look :=
  if !flags.multiLine then .textStart else if flags.crlf then .crlfStart else .lineStart

def Flags.lineEnd (flags : Flags) : Look :=
  if !flags.multiLine then .textEnd else if flags.crlf then .crlfEnd else .lineEnd

def Flags.atom? (flags : Flags) : Atom → Option Regex
  | .literal c byte => if flags.allowsLiteral c byte then some (flags.literal c) else none
  | .set s => some (.one s)
  | .look assertion => some (.look assertion)

def State.step (st : State) (c : Char) (r : Text) : Option (State × Text) :=
  let piece (regex : Regex) : State := st.push { regex }
  match c with
  | '(' => st.parenthesis r
  | ')' => st.closeGroup.map (·, r)
  | '|' => some (st.alternate, r)
  | '[' =>
    (readClass st.flags r).map fun (part, rest) =>
      (st.push { regex := .one part.set, height := part.height }, rest)
  | '?' => st.repeatBefore 0 (some 1) r
  | '*' => st.repeatBefore 0 none r
  | '+' => st.repeatBefore 1 none r
  | '{' => do
    let ((least, extra), rest) ← readCounts st.flags.verbose r
    st.repeatBefore least extra (skip st.flags.verbose rest)
  | '\\' => do
    let (atom, rest) ← readEscape st.flags r
    let regex ← st.flags.atom? atom
    some (piece regex, rest)
  | '.' => if st.flags.unicode then some (piece (.one st.flags.dot), r) else none
  | '^' => some (piece (.look st.flags.lineStart), r)
  | '$' => some (piece (.look st.flags.lineEnd), r)
  | c => some (piece (st.flags.literal c), r)

def State.run : Nat → State → Text → Option State
  | 0, _, _ => none
  | fuel + 1, st, s =>
    match skip st.flags.verbose s with
    | [] => some st
    | c :: r =>
      match st.step c r with
      | some (st', rest) => st'.run fuel rest
      | none => none

def maxDepth : Nat := 250

end Reader

/-- The expression that a text writes. Case is ignored unless flags in the text say otherwise. -/
def read? (s : Text) : Option Regex :=
  match Reader.State.run (s.length + 1) {} s with
  | some st =>
    let whole := st.branches.finish
    if st.outer.isEmpty && whole.height ≤ Reader.maxDepth then some whole.regex else none
  | none => none

end ContentFilter.Regex
