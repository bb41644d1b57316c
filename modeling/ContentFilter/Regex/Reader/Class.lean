import ContentFilter.Regex.Reader.Escape

namespace ContentFilter.Regex.Reader

structure ClassPart where
  set : CharSet
  height : Nat := 0

inductive ClassOp
  | inter | difference | symmetric
  deriving DecidableEq, Repr

def ClassOp.apply : ClassOp → CharSet → CharSet → CharSet
  | .inter, s, t => .inter s t
  | .difference, s, t => .inter s (.compl t)
  | .symmetric, s, t => .symmetricDifference s t

inductive ClassFrame
  /-- A bracket within a union, of which these parts are read, newest first. -/
  | opened (outer : List ClassPart) (negated : Bool)
  /-- The left side of an operation. -/
  | pending (op : ClassOp) (left : ClassPart)

structure ClassState where
  frames : List ClassFrame
  parts : List ClassPart

def maxHeight (heights : List Nat) : Nat := heights.foldl max 0

def unionOf : List ClassPart → ClassPart
  | [] => { set := .none }
  | [part] => part
  | parts =>
    { set := .unionAll (parts.reverse.map (·.set)), height := maxHeight (parts.map (·.height)) + 1 }

def endOperand (flags : Flags) (right : ClassPart) : List ClassFrame → ClassPart × List ClassFrame
  | .pending op left :: frames =>
    ({ set := op.apply (flags.fold left.set) (flags.fold right.set)
       height := max left.height right.height + 1 }, frames)
  | frames => (right, frames)

def ClassState.beginOperand (flags : Flags) (op : ClassOp) (st : ClassState) : ClassState :=
  let (left, frames) := endOperand flags (unionOf st.parts) st.frames
  { frames := .pending op left :: frames, parts := [] }

def ClassState.push (st : ClassState) (part : ClassPart) : ClassState :=
  { st with parts := part :: st.parts }

/-- After an opening bracket: a caret negates, hyphens stand for themselves, and so does a closing
bracket that comes first. -/
def openClass (verbose : Bool) (s : Text) : Option (Bool × List ClassPart × Text) :=
  let (negated, s) :=
    match skip verbose s with
    | '^' :: r => (true, skip verbose r)
    | s => (false, s)
  let (dashes, s) := takeRun verbose (· == '-') false s
  let parts : List ClassPart := dashes.map fun c => { set := .single c }
  match s with
  | [] => none
  | ']' :: r =>
    if parts.isEmpty then
      match skip verbose r with
      | [] => none
      | r => some (negated, [{ set := .single ']' }], r)
    else some (negated, parts, s)
  | _ => some (negated, parts, s)

def namedClasses : List (Text × CharSet) :=
  [("alnum".toList, .asciiAlnum),
    ("alpha".toList, .asciiAlpha),
    ("ascii".toList, .range '\x00' '\x7F'),
    ("blank".toList, .union (.single '\t') (.single ' ')),
    ("cntrl".toList, .union (.range '\x00' '\x1F') (.single '\x7F')),
    ("digit".toList, .asciiDigit),
    ("graph".toList, .range '!' '~'),
    ("lower".toList, .asciiLower),
    ("print".toList, .range ' ' '~'),
    ("punct".toList, .unionAll [.range '!' '/', .range ':' '@', .range '[' (Char.ofNat 0x60),
      .range (Char.ofNat 0x7B) '~']),
    ("space".toList, .asciiSpace),
    ("upper".toList, .asciiUpper),
    ("word".toList, .asciiWord),
    ("xdigit".toList, .unionAll [.asciiDigit, .range 'A' 'F', .range 'a' 'f'])]

/-- A named class, from what follows its opening bracket, and whether it is negated. Anything else
is left to be read as a nested class. -/
def readNamedClass (s : Text) : Option (CharSet × Bool × Text) :=
  match s with
  | ':' :: r =>
    let (negated, r) :=
      match r with
      | '^' :: r => (true, r)
      | r => (false, r)
    match r.span (· != ':') with
    | (name, ':' :: ']' :: rest) =>
      (namedClasses.find? (·.1 == name)).map fun entry => (entry.2, negated, rest)
    | _ => none
  | _ => none

def readClassAtom (flags : Flags) : Text → Option (Atom × Text)
  | [] => none
  | '\\' :: r => readEscape flags r
  | c :: r => some (.literal c false, r)

/-- Where Unicode is off, classes hold ASCII characters alone. -/
def Flags.classLiteral? (flags : Flags) : Atom → Option Char
  | .literal c _ => if flags.unicode || c.toNat < 128 then some c else none
  | _ => none

def Flags.classPart? (flags : Flags) : Atom → Option ClassPart
  | .set s => some { set := s }
  | atom => (flags.classLiteral? atom).map fun c => { set := .single c }

/-- The character that decides whether the hyphen before it makes a range. In verbose mode white
space is passed over and one number sign, but not the comment that the sign begins. -/
def deciding (verbose : Bool) (s : Text) : Option Char :=
  if verbose then
    match s.dropWhile isBlank with
    | '#' :: r => (r.dropWhile isBlank).head?
    | s => s.head?
  else s.head?

/-- An atom, or two with a hyphen between them. A hyphen before the closing bracket or before
another hyphen makes no range. -/
def readClassRange (flags : Flags) (s : Text) : Option (ClassPart × Text) := do
  let (first, s) ← readClassAtom flags s
  match skip flags.verbose s with
  | [] => none
  | '-' :: r =>
    let next := deciding flags.verbose r
    if next == some ']' || next == some '-' then
      (flags.classPart? first).map (·, '-' :: r)
    else
      let (last, rest) ← readClassAtom flags (skip flags.verbose r)
      let a ← flags.classLiteral? first
      let b ← flags.classLiteral? last
      if b < a then none else some ({ set := .range a b }, rest)
  | s => (flags.classPart? first).map (·, s)

def ClassState.close (flags : Flags) (st : ClassState) : Option (ClassPart ⊕ ClassState) :=
  let (whole, frames) := endOperand flags (unionOf st.parts) st.frames
  match frames with
  | .opened outer negated :: frames =>
    (flags.negate negated (flags.fold whole.set)).map fun s =>
      let part : ClassPart := { set := s, height := whole.height + 1 }
      if frames.isEmpty then .inl part else .inr { frames, parts := part :: outer }
  | _ => none

def ClassState.step (flags : Flags) (st : ClassState) (s : Text) :
    Option ((ClassPart ⊕ ClassState) × Text) :=
  match s with
  | [] => none
  | ']' :: r => (st.close flags).map (·, r)
  | '[' :: r =>
    match readNamedClass r with
    | some (s, negated, rest) =>
      (flags.negate negated (flags.fold s)).map fun s => (.inr (st.push { set := s }), rest)
    | none =>
      (openClass flags.verbose r).map fun (negated, parts, rest) =>
        (.inr { frames := .opened st.parts negated :: st.frames, parts }, rest)
  | '&' :: '&' :: r => some (.inr (st.beginOperand flags .inter), r)
  | '-' :: '-' :: r => some (.inr (st.beginOperand flags .difference), r)
  | '~' :: '~' :: r => some (.inr (st.beginOperand flags .symmetric), r)
  | s => (readClassRange flags s).map fun (part, rest) => (.inr (st.push part), rest)

def ClassState.run (flags : Flags) : Nat → ClassState → Text → Option (ClassPart × Text)
  | 0, _, _ => none
  | fuel + 1, st, s =>
    match st.step flags (skip flags.verbose s) with
    | some (.inl part, rest) => some (part, rest)
    | some (.inr st, rest) => st.run flags fuel rest
    | none => none

def readClass (flags : Flags) (s : Text) : Option (ClassPart × Text) := do
  let (negated, parts, rest) ← openClass flags.verbose s
  ClassState.run flags (s.length + 1) { frames := [.opened [] negated], parts } rest

end ContentFilter.Regex.Reader
