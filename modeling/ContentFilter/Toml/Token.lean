import ContentFilter.Text.Basic
/-!
The tokens of a TOML document: line ends, blanks, punctuation marks, strings, and words, which are
what stands between these. A comment counts as a blank.
-/
namespace ContentFilter.Toml.Moment

def number? (width : Nat) (s : Text) : Option Nat :=
  if s.length = width ∧ s.all isAsciiDigit then some (s.toNatBase 10) else none

def isLeapYear (year : Nat) : Bool :=
  year % 4 == 0 && (year % 100 != 0 || year % 400 == 0)

def daysIn (year month : Nat) : Nat :=
  if month = 2 then (if isLeapYear year then 29 else 28)
  else if [4, 6, 9, 11].contains month then 30
  else 31

def isDate (s : Text) : Bool :=
  match (s.splitAll '-') with
  | [year, month, day] =>
    match number? 4 year, number? 2 month, number? 2 day with
    | some y, some m, some d => 1 ≤ m && m ≤ 12 && 1 ≤ d && d ≤ daysIn y m
    | _, _, _ => false
  | _ => false

def isBelow (bound : Nat) (s : Text) : Bool :=
  match number? 2 s with
  | some n => n < bound
  | none => false

/-- Seconds, which may be leap seconds, and a fraction of any length. -/
def isSeconds (s : Text) : Bool :=
  match s.splitOnce ['.'] with
  | none => isBelow 61 s
  | some (whole, fraction) => isBelow 61 whole && !fraction.isEmpty && fraction.all isAsciiDigit

def isTime (s : Text) : Bool :=
  match s.splitAll ':' with
  | [hour, minute] => isBelow 24 hour && isBelow 60 minute
  | [hour, minute, second] => isBelow 24 hour && isBelow 60 minute && isSeconds second
  | _ => false

def isOffset (s : Text) : Bool :=
  match s.splitAll ':' with
  | [hours, minutes] => isBelow 24 hours && isBelow 60 minutes
  | _ => false

def isOffsetTime (s : Text) : Bool :=
  match s.stripLast? 'Z', s.stripLast? 'z' with
  | some time, _ => isTime time
  | none, some time => isTime time
  | none, none =>
    match s.span fun c => c != '+' && c != '-' with
    | (time, []) => isTime time
    | (time, _ :: offset) => isTime time && isOffset offset

def dateWidth : Nat := 10

def isMoment (s : Text) : Bool :=
  isDate s || isTime s ||
    match s.drop dateWidth with
    | c :: time => isDate (s.take dateWidth) && [' ', 'T', 't'].contains c && isOffsetTime time
    | [] => false

end ContentFilter.Toml.Moment

namespace ContentFilter.Toml

def isLineChar (c : Char) : Bool := c == '\t' || (' ' ≤ c && c != '\x7f')

namespace Quoted

def singleMark : Char := '\x27'

def consFirst (c : Char) (result : Option (Text × Text)) : Option (Text × Text) :=
  result.map fun (content, rest) => (c :: content, rest)

/-- Two more quotation marks than needed can stand at the end of a string of several lines; they
belong to the string. -/
def closeLong (mark : Char) : Text → Text × Text
  | a :: b :: r =>
    if a = mark ∧ b = mark then ([mark, mark], r)
    else if a = mark then ([mark], b :: r)
    else ([], a :: b :: r)
  | [a] => if a = mark then ([mark], []) else ([], [a])
  | [] => ([], [])

def isSpace (c : Char) : Bool := c == ' ' || c == '\t'

def isBreak (c : Char) (r : Text) : Bool := c == '\n' || (c == '\r' && r.head? == some '\n')

def literal? (long : Bool) : Text → Option (Text × Text)
  | [] => none
  | c :: r =>
    if c = singleMark ∧ !long then some ([], r)
    else if c = singleMark ∧ [singleMark, singleMark].isPrefixOf r then
      some (closeLong singleMark (r.drop 2))
    else if isLineChar c || (long && isBreak c r) then consFirst c (literal? long r)
    else none

def shortEscape? : Char → Option Char
  | 'b' => some '\x08'
  | 't' => some '\t'
  | 'n' => some '\n'
  | 'f' => some '\x0c'
  | 'r' => some '\r'
  | 'e' => some '\x1b'
  | '"' => some '"'
  | '\\' => some '\\'
  | _ => none

def codeWidth? : Char → Option Nat
  | 'x' => some 2
  | 'u' => some 4
  | 'U' => some 8
  | _ => none

def charOfCode? (n : Nat) : Option Char := if n.isValidChar then some (Char.ofNat n) else none

inductive Within
  | text
  /-- After a backslash. -/
  | escape
  /-- Before this many digits and one more, with the number of the digits so far. -/
  | code (later value : Nat)
  /-- After a backslash and blanks, which a line has to end with. -/
  | lineEnd
  /-- After such a line end: what is blank is passed over. -/
  | margin

def Within.isMargin : Within → Bool
  | margin => true
  | _ => false

def basic? (long : Bool) : Within → Text → Option (Text × Text)
  | _, [] => none
  | .escape, c :: r =>
    match shortEscape? c, codeWidth? c with
    | some d, _ => consFirst d (basic? long .text r)
    | none, some width => basic? long (.code (width - 1) 0) r
    | none, none =>
      if long && isBreak c r then basic? long .margin r
      else if long && isSpace c then basic? long .lineEnd r
      else none
  | .code later value, c :: r =>
    let value := value * 16 + digitValue c
    if !isHexDigit c then none
    else match later with
      | later + 1 => basic? long (.code later value) r
      | 0 => (charOfCode? value).bind fun d => consFirst d (basic? long .text r)
  | .lineEnd, c :: r =>
    if isBreak c r then basic? long .margin r
    else if isSpace c then basic? long .lineEnd r
    else none
  | within, c :: r =>
    if within.isMargin && (isBreak c r || isSpace c) then basic? long .margin r
    else if c = '"' ∧ !long then some ([], r)
    else if c = '"' ∧ ['"', '"'].isPrefixOf r then some (closeLong '"' (r.drop 2))
    else if c = '\\' then basic? long .escape r
    else if isLineChar c || (long && isBreak c r) then consFirst c (basic? long .text r)
    else none

/-- A line break right after the opening quotation marks does not belong to the string. -/
def dropFirstBreak : Text → Text
  | '\n' :: r => r
  | '\r' :: '\n' :: r => r
  | s => s

end Quoted

inductive Token
  | lineEnd
  | blank
  | mark (c : Char)
  | word (s : Text)
  | string (s : Text)
  /-- A string that may go over several lines, which cannot be a key. -/
  | long (s : Text)
  deriving DecidableEq, Repr

namespace Token

def marks : List Char := ['[', ']', '\x7b', '\x7d', ',', '=']

def isWordChar (c : Char) : Bool :=
  !([' ', '\t', '\n', '\r', '#', '"', Quoted.singleMark].contains c || marks.contains c)

/-- A word up to its end. After a date, a space and a digit the word goes on with a time. -/
def readWord (s : Text) : Text × Text :=
  let (first, rest) := s.span isWordChar
  match rest with
  | ' ' :: c :: r =>
    if Moment.isDate first && isAsciiDigit c then
      let (time, rest) := (c :: r).span isWordChar
      (first ++ ' ' :: time, rest)
    else (first, rest)
  | _ => (first, rest)

def readString (mark : Char) (reader : Bool → Text → Option (Text × Text)) (s : Text) :
    Option (Token × Text) :=
  if [mark, mark].isPrefixOf s then
    (reader true (Quoted.dropFirstBreak (s.drop 2))).map fun (content, rest) =>
      (.long content, rest)
  else (reader false s).map fun (content, rest) => (.string content, rest)

def read (c : Char) (r : Text) : Option (Token × Text) :=
  if c = ' ' ∨ c = '\t' then some (.blank, r)
  else if c = '\n' then some (.lineEnd, r)
  else if c = '\r' then (if r.head? = some '\n' then some (.lineEnd, r.tail) else none)
  else if c = '#' then some (.blank, r.dropWhile isLineChar)
  else if c = '"' then readString '"' (fun long => Quoted.basic? long .text) r
  else if c = Quoted.singleMark then readString Quoted.singleMark Quoted.literal? r
  else if marks.contains c then some (.mark c, r)
  else
    let (content, rest) := readWord (c :: r)
    some (.word content, rest)

def readAll : Nat → Text → Option (List Token)
  | 0, _ => none
  | _ + 1, [] => some []
  | fuel + 1, c :: r =>
    match read c r with
    | none => none
    | some (token, rest) => (readAll fuel rest).map (token :: ·)

end Token

def tokens? (s : Text) : Option (List Token) := Token.readAll (s.length + 1) s

end ContentFilter.Toml
