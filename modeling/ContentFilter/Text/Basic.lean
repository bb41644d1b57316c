namespace ContentFilter

abbrev Text := List Char

namespace Text

/-- Cuts at the first occurrence of `sep`, which is left out. -/
def splitOnce (s sep : Text) : Option (Text × Text) :=
  match s with
  | [] => none
  | c :: r =>
    if sep.isPrefixOf (c :: r) then some ([], (c :: r).drop sep.length)
    else (splitOnce r sep).map fun (before, after) => (c :: before, after)

def splitLast (sep : Char) : Text → Option (Text × Text)
  | [] => none
  | c :: r =>
    match splitLast sep r with
    | some (before, after) => some (c :: before, after)
    | none => if c = sep then some ([], r) else none

/-- The parts between the characters that satisfy `p`: one more than there are such characters. -/
def splitWhere (p : Char → Bool) : Text → List Text
  | [] => [[]]
  | c :: r =>
    if p c then [] :: splitWhere p r
    else match splitWhere p r with
      | [] => [[c]]
      | part :: parts => (c :: part) :: parts

def splitAll (sep : Char) : Text → List Text := splitWhere (· == sep)

def hasInfix (s sub : Text) : Bool :=
  match s with
  | [] => sub.isEmpty
  | c :: r => sub.isPrefixOf (c :: r) || hasInfix r sub

def stripPrefix? (s start : Text) : Option Text :=
  if start.isPrefixOf s then some (s.drop start.length) else none

def stripLast? (c : Char) : Text → Option Text
  | [] => none
  | [d] => if d = c then some [] else none
  | d :: r => (stripLast? c r).map (d :: ·)

def dropEndWhile (p : Char → Bool) (s : Text) : Text :=
  (s.reverse.dropWhile p).reverse

def dropAroundWhile (p : Char → Bool) (s : Text) : Text :=
  dropEndWhile p (s.dropWhile p)

def joinWith (sep : Text) : List Text → Text
  | [] => []
  | [part] => part
  | part :: parts => part ++ sep ++ joinWith sep parts

end Text

def isAsciiLetter (c : Char) : Bool :=
  ('a' ≤ c && c ≤ 'z') || ('A' ≤ c && c ≤ 'Z')

def isAsciiDigit (c : Char) : Bool := '0' ≤ c && c ≤ '9'

def isHexDigit (c : Char) : Bool :=
  isAsciiDigit c || ('a' ≤ c && c ≤ 'f') || ('A' ≤ c && c ≤ 'F')

def digitValue (c : Char) : Nat :=
  if isAsciiDigit c then c.toNat - '0'.toNat
  else if 'a' ≤ c && c ≤ 'f' then c.toNat - 'a'.toNat + 10
  else c.toNat - 'A'.toNat + 10

namespace Text

def asciiLower (s : Text) : Text := s.map Char.toLower

def equalIgnoringCase (s t : Text) : Bool := s.asciiLower == t.asciiLower

/-- The number that digits write in a base, most significant digit first. -/
def toNatBase (base : Nat) (digits : Text) : Nat :=
  digits.foldl (fun n c => n * base + digitValue c) 0

end Text

def isBlank (c : Char) : Bool :=
  let n := c.toNat
  (9 ≤ n && n ≤ 13) || n == 0x20 || n == 0x85 || n == 0xA0 || n == 0x1680 ||
    (0x2000 ≤ n && n ≤ 0x200A) || n == 0x2028 || n == 0x2029 || n == 0x202F || n == 0x205F ||
    n == 0x3000

namespace Text

def trimStart (s : Text) : Text := s.dropWhile isBlank

def trim (s : Text) : Text := dropAroundWhile isBlank s

def words (s : Text) : List Text := (s.splitWhere isBlank).filter fun word => !word.isEmpty

end Text

end ContentFilter

namespace ContentFilter.Text

def consLine (c : Char) : List Text → List Text
  | [] => [[c]]
  | line :: rest => (c :: line) :: rest

def lines : Text → List Text
  | [] => []
  | '\n' :: r => [] :: lines r
  | '\r' :: '\n' :: r => [] :: lines r
  | c :: r => consLine c (lines r)

def unlines (ls : List Text) : Text :=
  (ls.map (· ++ ['\n'])).flatten

end ContentFilter.Text
