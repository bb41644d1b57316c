import ContentFilter.Text.Basic
/-!
A tree of files as a value. A path is followed from directory to directory; reading and writing
fail where a directory is missing, a file stands in its place, or a directory in the place of the
file.
-/
namespace ContentFilter

structure Table (Key Value : Type) where
  entries : List (Key × Value) := []
  deriving DecidableEq, Repr

namespace Table

variable {Key Value : Type} [DecidableEq Key]

def get? (t : Table Key Value) (k : Key) : Option Value :=
  (t.entries.find? (·.1 = k)).map (·.2)

def erase (t : Table Key Value) (k : Key) : Table Key Value :=
  ⟨t.entries.filter (·.1 ≠ k)⟩

def put (t : Table Key Value) (k : Key) (v : Value) : Table Key Value :=
  ⟨(k, v) :: (t.erase k).entries⟩

def keys (t : Table Key Value) : List Key := t.entries.map (·.1)

theorem get?_erase (t : Table Key Value) (k l : Key) :
    (t.erase k).get? l = if l = k then none else t.get? l := by
  rcases t with ⟨entries⟩
  induction entries with
  | nil => simp [get?, erase]
  | cons e es ih =>
    simp only [get?, erase, List.filter_cons, List.find?_cons] at ih ⊢
    by_cases hk : e.1 = k <;> by_cases hl : e.1 = l <;> grind

theorem get?_put (t : Table Key Value) (k l : Key) (v : Value) :
    (t.put k v).get? l = if l = k then some v else t.get? l := by
  have h := get?_erase t k l
  simp only [get?, put, List.find?_cons] at h ⊢
  by_cases hl : k = l <;> grind

end Table

end ContentFilter

namespace ContentFilter.Path

def isAbsolute (path : Text) : Bool := path.head? == some '/'

def byteLength (path : Text) : Nat := path.foldr (Char.utf8Size · + ·) 0

def parts (path : Text) : List Text := path.splitAll '/'

def trimBackwards : Text → Text
  | ['/'] => ['/']
  | '/' :: r => trimBackwards r
  | ['.', '/'] => ['/']
  | '.' :: '/' :: r => trimBackwards r
  | r => r

/-- The path of the directory that holds the last part, if the path has parts. The directory of a
single part is written as the empty path. -/
def parent? (path : Text) : Option Text :=
  match trimBackwards path.reverse with
  | [] => none
  | ['/'] => none
  | backwards => some (trimBackwards (backwards.dropWhile (· != '/'))).reverse

/-- The last part, unless it only stands for a directory that has another name. -/
def fileName? (path : Text) : Option Text :=
  let name := ((trimBackwards path.reverse).takeWhile (· != '/')).reverse
  if name = [] ∨ name = ['.'] ∨ name = ['.', '.'] then none else some name

def join (base path : Text) : Text :=
  if isAbsolute path then path
  else if base.isEmpty || base.getLast? == some '/' then base ++ path
  else base ++ '/' :: path

end ContentFilter.Path

namespace ContentFilter

inductive FileFault
  | notFound
  | notADirectory
  | isADirectory
  | alreadyExists
  /-- A path, or a part of one, has more bytes than systems take. -/
  | nameTooLong
  /-- A path with a null character, which would end it. -/
  | nullInName
  /-- The bytes of a file that should hold text are not valid UTF-8. -/
  | notText
  deriving DecidableEq, Repr

/-- The names from a file or directory up to the root, its own name first. The root has no name. -/
abbrev Place := List Text

namespace FileTree

inductive Entry
  | directory
  | file (content : List UInt8)
  deriving DecidableEq, Repr

end FileTree

structure FileTree where
  entries : Table Place FileTree.Entry := {}
  start : Place := []
  deriving DecidableEq, Repr

namespace FileTree

def entryAt? (t : FileTree) (place : Place) : Option Entry :=
  if place = [] then some .directory else t.entries.get? place

def put (t : FileTree) (place : Place) (entry : Entry) : FileTree :=
  { t with entries := t.entries.put place entry }

def directories : Place → Table Place Entry
  | [] => {}
  | name :: above => (directories above).put (name :: above) .directory

def emptyAt (start : Place) : FileTree where
  entries := directories start
  start

def maxPathBytes : Nat := 4095

def maxNameBytes : Nat := 255

def step (t : FileTree) (place : Place) (part : Text) : Except FileFault Place :=
  match t.entryAt? place with
  | none => .error .notFound
  | some (.file _) => .error .notADirectory
  | some .directory =>
    if maxNameBytes < Path.byteLength part then .error .nameTooLong
    else .ok (if part = [] ∨ part = ['.'] then place
      else if part = ['.', '.'] then place.tail
      else part :: place)

def origin (t : FileTree) (path : Text) : Place := if Path.isAbsolute path then [] else t.start

def faultOf? (path : Text) : Option FileFault :=
  if path.contains '\x00' then some .nullInName
  else if path.isEmpty then some .notFound
  else if maxPathBytes < Path.byteLength path then some .nameTooLong
  else none

def locate (t : FileTree) (path : Text) : Except FileFault Place :=
  match faultOf? path with
  | some fault => .error fault
  | none => (Path.parts path).foldlM t.step (t.origin path)

def read (t : FileTree) (path : Text) : Except FileFault (List UInt8) :=
  match t.locate path with
  | .error fault => .error fault
  | .ok place =>
    match t.entryAt? place with
    | none => .error .notFound
    | some .directory => .error .isADirectory
    | some (.file content) => .ok content

/-- The place of a file that is to be written. A slash at the end asks for a directory. -/
def locateFile (t : FileTree) (path : Text) : Except FileFault Place :=
  let bare := path.dropEndWhile (· == '/')
  match t.locate (if bare.isEmpty then path else bare) with
  | .error fault => .error fault
  | .ok place =>
    if path.getLast? = some '/' ∨ t.entryAt? place = some .directory then .error .isADirectory
    else .ok place

def write (t : FileTree) (path : Text) (content : List UInt8) : Except FileFault FileTree :=
  match t.locateFile path with
  | .error fault => .error fault
  | .ok place => .ok (t.put place (.file content))

def contentAt (t : FileTree) (place : Place) : List UInt8 :=
  match t.entryAt? place with
  | some (.file content) => content
  | _ => []

def append (t : FileTree) (path : Text) (content : List UInt8) : Except FileFault FileTree :=
  match t.locateFile path with
  | .error fault => .error fault
  | .ok place => .ok (t.put place (.file (t.contentAt place ++ content)))

/-- Goes along the parts of a path and makes the directories that are missing. Those that were made
before a fault stay. A file on the way is no directory; once a directory has been `made`, each part
is made by itself, and a file is what exists already. -/
def createFrom (t : FileTree) (made : Bool) (place : Place) :
    List Text → FileTree × Except FileFault Unit
  | [] => (t, .ok ())
  | part :: rest =>
    match t.step place part with
    | .error fault => (t, .error fault)
    | .ok next =>
      match t.entryAt? next with
      | none => (t.put next .directory).createFrom true next rest
      | some .directory => t.createFrom made next rest
      | some (.file _) =>
        (t, .error (if made || rest.isEmpty then .alreadyExists else .notADirectory))

/-- Makes a directory and those above it. The empty path is that of a directory that is there. -/
def createDirectories (t : FileTree) (path : Text) : FileTree × Except FileFault Unit :=
  if path.isEmpty then (t, .ok ())
  else match faultOf? path with
    | some fault => (t, .error fault)
    | none => t.createFrom false (t.origin path) (Path.parts path)

def hasEntries (t : FileTree) (place : Place) : Bool :=
  t.entries.keys.any fun key => key != [] && key.tail == place

def isNamed (path : Text) : Bool :=
  match ((Path.parts path).filter (· ≠ [])).getLast? with
  | none => false
  | some part => part != ['.'] && part != ['.', '.']

/-- Removes a file, or a directory that has no entries and is named. -/
def remove? (t : FileTree) (path : Text) : Option FileTree :=
  match t.locate path with
  | .error _ => none
  | .ok place =>
    match t.entryAt? place with
    | none => none
    | some (.file _) => some { t with entries := t.entries.erase place }
    | some .directory =>
      if !isNamed path || place.isEmpty || t.hasEntries place then none
      else some { t with entries := t.entries.erase place }

end FileTree

def FileFault.message : FileFault → String
  | notFound => "No such file or directory (os error 2)"
  | notADirectory => "Not a directory (os error 20)"
  | isADirectory => "Is a directory (os error 21)"
  | alreadyExists => "File exists (os error 17)"
  | nameTooLong => "File name too long (os error 36)"
  | nullInName => "file name contained an unexpected NUL byte"
  | notText => "stream did not contain valid UTF-8"

inductive Failure
  | file (path : Text) (fault : FileFault)
  /-- The settings in this file are malformed. -/
  | settings (path : Text)
  /-- None of this many lists has lines to build a rule set from. -/
  | noUsableSource (count : Nat)
  deriving DecidableEq, Repr

namespace Failure

def message : Failure → Text
  | file path fault =>
    "failed to access '".toList ++ path ++ "': ".toList ++ fault.message.toList
  | settings path => "invalid settings in '".toList ++ path ++ ['\x27']
  | noUsableSource count =>
    "none of the ".toList ++ (toString count).toList ++
      " filter list source(s) could be read".toList

end Failure

end ContentFilter
