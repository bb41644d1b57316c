import ContentFilter.Regex.Basic
import ContentFilter.Regex.Property
import ContentFilter.Text.Basic

namespace ContentFilter.Regex.Reader

structure Flags where
  ignoreCase : Bool := true
  multiLine : Bool := false
  dotAll : Bool := false
  /-- Repetitions are greedy just when a question mark follows them. -/
  swapGreed : Bool := false
  crlf : Bool := false
  unicode : Bool := true
  verbose : Bool := false
  deriving DecidableEq, Repr

inductive Flag
  | ignoreCase | multiLine | dotAll | swapGreed | unicode | crlf | verbose
  deriving DecidableEq, Repr

def Flag.ofChar? : Char → Option Flag
  | 'i' => some .ignoreCase
  | 'm' => some .multiLine
  | 's' => some .dotAll
  | 'U' => some .swapGreed
  | 'u' => some .unicode
  | 'R' => some .crlf
  | 'x' => some .verbose
  | _ => none

def Flags.set (flags : Flags) : Flag × Bool → Flags
  | (.ignoreCase, on) => { flags with ignoreCase := on }
  | (.multiLine, on) => { flags with multiLine := on }
  | (.dotAll, on) => { flags with dotAll := on }
  | (.swapGreed, on) => { flags with swapGreed := on }
  | (.unicode, on) => { flags with unicode := on }
  | (.crlf, on) => { flags with crlf := on }
  | (.verbose, on) => { flags with verbose := on }

def Flags.folding (flags : Flags) : Folding := if flags.unicode then .simple else .ascii

def Flags.fold (flags : Flags) (s : CharSet) : CharSet :=
  if flags.ignoreCase then .folded flags.folding s else s

def Flags.wordLetters (flags : Flags) : CharSet :=
  if flags.unicode then .word else .asciiWord

/-- Flags up to the colon or the parenthesis after them. Each stands once, and something follows
the hyphen that turns the rest off. -/
def readFlags (seen : List Flag) (off dangling : Bool) :
    Text → Option (List (Flag × Bool) × Char × Text)
  | [] => none
  | c :: r =>
    if c == ':' || c == ')' then (if dangling then none else some ([], c, r))
    else if c == '-' then (if off then none else readFlags seen true true r)
    else match Flag.ofChar? c with
      | none => none
      | some flag =>
        if seen.contains flag then none
        else (readFlags (flag :: seen) off false r).map fun (flags, stop, rest) =>
          ((flag, !off) :: flags, stop, rest)

/-- Drops the white space and the comments that verbose mode allows between any two characters. -/
def skipTrivia (inComment : Bool) : Text → Text
  | [] => []
  | c :: r =>
    if inComment then skipTrivia (c != '\n') r
    else if isBlank c then skipTrivia false r
    else if c == '#' then skipTrivia true r
    else c :: r

def skip (verbose : Bool) (s : Text) : Text := if verbose then skipTrivia false s else s

def takeRun (verbose : Bool) (p : Char → Bool) (inComment : Bool) : Text → Text × Text
  | [] => ([], [])
  | c :: r =>
    if inComment then takeRun verbose p (c != '\n') r
    else if verbose && isBlank c then takeRun verbose p false r
    else if verbose && c == '#' then takeRun verbose p true r
    else if p c then
      let (run, rest) := takeRun verbose p false r
      (c :: run, rest)
    else ([], c :: r)

def readCount (verbose : Bool) (s : Text) : Option (Nat × Text) :=
  let (digits, rest) := takeRun verbose isAsciiDigit false (s.dropWhile isBlank)
  let n := digits.toNatBase 10
  if digits.isEmpty || UInt32.size ≤ n then none else some (n, rest.dropWhile isBlank)

def readCounts (verbose : Bool) (s : Text) : Option ((Nat × Option Nat) × Text) := do
  let (least, s) ← readCount verbose (skip verbose s)
  match s with
  | '}' :: r => some ((least, some 0), r)
  | ',' :: r =>
    match skip verbose r with
    | '}' :: r => some ((least, none), r)
    | r =>
      let (most, s) ← readCount verbose r
      match s with
      | '}' :: r => if most < least then none else some ((least, some (most - least)), r)
      | _ => none
  | _ => none

def readHexDigits (verbose : Bool) : Nat → Text → Option (Text × Text)
  | 0, s => some ([], s)
  | n + 1, s =>
    match skip verbose s with
    | c :: r =>
      if isHexDigit c then (readHexDigits verbose n r).map fun (ds, rest) => (c :: ds, rest)
      else none
    | [] => none

def charOfHex? (digits : Text) : Option Char :=
  let n := digits.toNatBase 16
  if n < 0xD800 || (0xDFFF < n && n ≤ 0x10FFFF) then some (Char.ofNat n) else none

def readHex (verbose : Bool) (count : Nat) (s : Text) : Option (Char × Text) :=
  match skip verbose s with
  | '{' :: r =>
    match takeRun verbose (· != '}') false r with
    | (digits, '}' :: rest) =>
      if digits.isEmpty || !digits.all isHexDigit then none
      else (charOfHex? digits).map (·, rest)
    | _ => none
  | s => do
    let (digits, rest) ← readHexDigits verbose count s
    (charOfHex? digits).map (·, rest)

inductive Atom
  /-- A character, and whether it is written as one byte of two digits. -/
  | literal (c : Char) (byte : Bool)
  | set (s : CharSet)
  | look (assertion : Look)

/-- A negated set reaches beyond ASCII and has no place where Unicode is off. -/
def Flags.negate (flags : Flags) (negated : Bool) (s : CharSet) : Option CharSet :=
  if !negated then some s else if flags.unicode then some s.compl else none

/-- The property that a name in braces stands for, and whether it says so in the negative. -/
def propertyOf? (name : Text) : Option (CharSet × Bool) :=
  match name.splitOnce ['!', '='] with
  | some (key, value) => (Property.valued? key value).map (·, true)
  | none =>
    match name.splitOnce [':'] <|> name.splitOnce ['='] with
    | some (key, value) => (Property.valued? key value).map (·, false)
    | none => (Property.named? name).map (·, false)

def readProperty (flags : Flags) (negated : Bool) (s : Text) : Option (CharSet × Text) := do
  let ((s, no), rest) ←
    match skip flags.verbose s with
    | '{' :: r =>
      match takeRun flags.verbose (· != '}') false r with
      | (name, '}' :: rest) => (propertyOf? name).map (·, rest)
      | _ => none
    | c :: r => if c == '\\' then none else (Property.named? [c]).map fun s => ((s, false), r)
    | [] => none
  if !flags.unicode then none
  else (flags.negate (negated != no) (flags.fold s)).map (·, rest)

def letterClass? (flags : Flags) (c : Char) : Option CharSet :=
  match c with
  | 'd' => some (if flags.unicode then .digit else .asciiDigit)
  | 's' => some (if flags.unicode then .space else .asciiSpace)
  | 'w' => some flags.wordLetters
  | _ => none

def isMeta (c : Char) : Bool :=
  ['\\', '.', '+', '*', '?', '(', ')', '|', '[', ']', '{', '}', '^', '$', '#', '&', '-',
    '~'].contains c

/-- A backslash takes the meaning of any ASCII character that is no letter, digit or angle
bracket. -/
def isEscapable (c : Char) : Bool :=
  isMeta c || (c.toNat < 128 && !(isAsciiLetter c || isAsciiDigit c || c == '<' || c == '>'))

def wordSides : List (Text × WordSide) :=
  [("start".toList, .start), ("end".toList, .stop), ("start-half".toList, .startHalf),
    ("end-half".toList, .stopHalf)]

/-- What may follow `\b` in braces. Braces around anything but letters belong to a repetition. -/
def readWordSide (verbose : Bool) (s : Text) : Option (WordSide × Text) :=
  match s with
  | '{' :: r =>
    let isNameChar := fun c => isAsciiLetter c || c == '-'
    match skip verbose r with
    | [] => none
    | c :: r' =>
      if !isNameChar c then some (.boundary, s)
      else match takeRun verbose isNameChar false (c :: r') with
        | (name, '}' :: rest) =>
          (wordSides.find? (·.1 == name)).map fun entry => (entry.2, rest)
        | _ => none
  | _ => some (.boundary, s)

def controlChar? : Char → Option Char
  | 'a' => some '\x07'
  | 'f' => some '\x0C'
  | 't' => some '\t'
  | 'n' => some '\n'
  | 'r' => some '\r'
  | 'v' => some '\x0B'
  | _ => none

def readEscape (flags : Flags) : Text → Option (Atom × Text)
  | [] => none
  | c :: r =>
    match c with
    | 'x' =>
      let braced := match skip flags.verbose r with
        | '{' :: _ => true
        | _ => false
      (readHex flags.verbose 2 r).map fun (d, rest) => (.literal d !braced, rest)
    | 'u' => (readHex flags.verbose 4 r).map fun (d, rest) => (.literal d false, rest)
    | 'U' => (readHex flags.verbose 8 r).map fun (d, rest) => (.literal d false, rest)
    | 'p' => (readProperty flags false r).map fun (s, rest) => (.set s, rest)
    | 'P' => (readProperty flags true r).map fun (s, rest) => (.set s, rest)
    | 'A' => some (.look .textStart, r)
    | 'z' => some (.look .textEnd, r)
    | 'b' => (readWordSide flags.verbose r).map fun (side, rest) =>
      (.look (.word flags.wordLetters side), rest)
    | 'B' => some (.look (.word flags.wordLetters .inside), r)
    | '<' => some (.look (.word flags.wordLetters .start), r)
    | '>' => some (.look (.word flags.wordLetters .stop), r)
    | _ =>
      if isEscapable c then some (.literal c false, r)
      else match controlChar? c, letterClass? flags c.toLower with
        | some d, _ => some (.literal d false, r)
        | none, some s => (flags.negate (c.isUpper) s).map fun s => (.set s, r)
        | none, none => none

/-- A byte above ASCII is no character, and where Unicode is off it would stand for the byte. -/
def Flags.allowsLiteral (flags : Flags) (c : Char) (byte : Bool) : Bool :=
  flags.unicode || !byte || c.toNat < 128

end ContentFilter.Regex.Reader
