import ContentFilter.Toml.Document
import ContentFilter.Toml.Scalar
import ContentFilter.Toml.Token
/-!
Reading TOML documents. A machine goes over the tokens once; the arrays and inline tables that are
still open are kept on a stack. `Toml.read?` gives the entries of a document, or nothing if the
text is not a document.
-/
namespace ContentFilter.Toml

namespace Reader

inductive KeyPiece
  | name (s : Text)
  | dot

def isBareChar (c : Char) : Bool := isAsciiLetter c || isAsciiDigit c || c == '_' || c == '-'

def wordPieces : Text → List KeyPiece
  | [] => []
  | c :: r =>
    if c = '.' then .dot :: wordPieces r
    else match wordPieces r with
      | .name s :: rest => .name (c :: s) :: rest
      | rest => .name [c] :: rest

def keyPieces? : Token → Option (List KeyPiece)
  | .word s => if s.all fun c => isBareChar c || c == '.' then some (wordPieces s) else none
  | .string s => some [.name s]
  | .blank => some []
  | _ => none

def names? : List KeyPiece → Option (List Text)
  | [.name s] => some [s]
  | .name s :: .dot :: rest => (names? rest).map (s :: ·)
  | _ => none

def maxDepth : Nat := 80

def key? (tokens : List Token) : Option Key := do
  let pieces ← tokens.mapM keyPieces?
  let names ← names? pieces.flatten
  let name ← names.getLast?
  if names.length ≤ maxDepth then some { path := names.dropLast, name } else none

inductive Frame
  /-- An array, with its items so far, the newest first. -/
  | array (items : List Value)
  /-- An inline table, with its entries so far. -/
  | table (entries : Entries)
  /-- An inline table that has to get a value for a key. -/
  | entry (entries : Entries) (key : Key)

inductive Expect
  | value
  /-- A value, or the end of the array. -/
  | item
  /-- A comma, or the end of what is open. -/
  | comma
  /-- The rest of a key of an inline table, of which these tokens are read, the newest first; or the
  end of the table if there are none. -/
  | key (tokens : List Token)
  /-- The equals sign after this key of an inline table. -/
  | equals (key : Key)
  /-- The end of the line, after this value. -/
  | lineEnd (v : Value)

inductive Mode
  /-- At the beginning of a statement, of which these tokens are read, the newest first. -/
  | statement (tokens : List Token)
  /-- In the value of a key. -/
  | value (key : Key) (frames : List Frame) (expect : Expect)

structure State where
  /-- The statements that are complete, the newest first. -/
  statements : List Statement := []
  mode : Mode := .statement []

/-- The header that a line holds. The brackets of a pair stand side by side. -/
def header? (line : List Token) : Option Statement :=
  let line := line.dropWhile (· == .blank)
  let backwards := line.reverse.dropWhile (· == .blank)
  match backwards.reverse with
  | .mark '[' :: .mark '[' :: inner =>
    match inner.reverse with
    | .mark ']' :: .mark ']' :: key => (key? key.reverse).map .tables
    | _ => none
  | .mark '[' :: inner =>
    match inner.reverse with
    | .mark ']' :: key => (key? key.reverse).map .table
    | _ => none
  | _ => none

def opened (key : Key) (frame : Frame) (frames : List Frame) (expect : Expect) : Option Mode :=
  if frames.length < maxDepth then some (.value key (frame :: frames) expect) else none

def closed (key : Key) (v : Value) : List Frame → Option Mode
  | [] => some (.value key [] (.lineEnd v))
  | .array items :: frames => some (.value key (.array (v :: items) :: frames) .comma)
  | .entry entries inner :: frames =>
    (entries.add .inline inner v).map fun entries =>
      .value key (.table entries :: frames) .comma
  | .table _ :: _ => none

def beginValue (key : Key) (frames : List Frame) : Token → Option Mode
  | .word s => (Scalar.value? s).bind fun v => closed key v frames
  | .string s => closed key (.string s) frames
  | .long s => closed key (.string s) frames
  | .mark '[' => opened key (.array []) frames .item
  | .mark '\x7b' => opened key (.table []) frames (.key [])
  | _ => none

/-- Line ends stand anywhere in arrays and inline tables, but not within a key. -/
def stepInValue (key : Key) : List Frame → Expect → Token → Option Mode
  | frames, .key tokens, .blank => some (.value key frames (.key (.blank :: tokens)))
  | frames, expect, .blank => some (.value key frames expect)
  | [], .value, .lineEnd => none
  | frames, .key tokens, .lineEnd =>
    if tokens.all (· == .blank) then some (.value key frames (.key []))
    else (key? tokens.reverse).map fun inner => .value key frames (.equals inner)
  | _, .lineEnd _, .lineEnd => none
  | frames, expect, .lineEnd => some (.value key frames expect)
  | .array items :: frames, .item, .mark ']' => closed key (.array items.reverse) frames
  | .array items :: frames, .comma, .mark ']' => closed key (.array items.reverse) frames
  | .array items :: frames, .comma, .mark ',' =>
    some (.value key (.array items :: frames) .item)
  | .table entries :: frames, .comma, .mark ',' =>
    some (.value key (.table entries :: frames) (.key []))
  | .table entries :: frames, .comma, .mark '\x7d' => closed key (.table .inline entries) frames
  | .table entries :: frames, .key tokens, .mark '\x7d' =>
    if tokens.all (· == .blank) then closed key (.table .inline entries) frames else none
  | .table entries :: frames, .key tokens, .mark '=' =>
    (key? tokens.reverse).map fun inner => .value key (.entry entries inner :: frames) .value
  | .table entries :: frames, .equals inner, .mark '=' =>
    some (.value key (.entry entries inner :: frames) .value)
  | frames, .key tokens, token => some (.value key frames (.key (token :: tokens)))
  | frames, .value, token => beginValue key frames token
  | frames, .item, token => beginValue key frames token
  | _, .comma, _ | _, .equals _, _ | _, .lineEnd _, _ => none

def State.step (st : State) (token : Token) : Option State :=
  match st.mode, token with
  | .statement tokens, .lineEnd =>
    if tokens.all (· == .blank) then some { st with mode := .statement [] }
    else (header? tokens.reverse).map fun header =>
      { statements := header :: st.statements, mode := .statement [] }
  | .statement tokens, .mark '=' =>
    (key? tokens.reverse).map fun key => { st with mode := .value key [] .value }
  | .statement tokens, token => some { st with mode := .statement (token :: tokens) }
  | .value key _ (.lineEnd v), .lineEnd =>
    some { statements := .entry key v :: st.statements, mode := .statement [] }
  | .value key frames expect, token =>
    (stepInValue key frames expect token).map fun mode => { st with mode }

def statements? (tokens : List Token) : Option (List Statement) :=
  match (tokens ++ [Token.lineEnd]).foldlM State.step {} with
  | some { statements, mode := .statement [] } => some statements.reverse
  | _ => none

end Reader

def dropByteOrderMark : Text → Text
  | '\uFEFF' :: r => r
  | s => s

def read? (s : Text) : Option Entries := do
  let tokens ← tokens? (dropByteOrderMark s)
  let statements ← Reader.statements? tokens
  Document.ofStatements? statements

end ContentFilter.Toml
