import ContentFilter.Live.Filter

namespace ContentFilter

structure Edited where
  filter : LiveFilter
  files : FileTree
  result : Except Failure Bool

namespace FileTree

def createParent (files : FileTree) (path : Text) : FileTree × Except Failure Unit :=
  match (Path.parent? path).filter (!·.isEmpty) with
  | none => (files, .ok ())
  | some parent =>
    let (files, made) := files.createDirectories parent
    (files, made.mapError (.file parent))

def appendLine (files : FileTree) (path line : Text) : FileTree × Except Failure Unit :=
  match files.createParent path with
  | (files, .error failure) => (files, .error failure)
  | (files, .ok ()) =>
    match files.append path (Utf8.encode (Text.unlines [line])) with
    | .ok files => (files, .ok ())
    | .error fault => (files, .error (.file path fault))

end FileTree

namespace LiveFilter

def remember (f : LiveFilter) (line : Text) : LiveFilter :=
  match f.cache.get? localName with
  | none => f
  | some lines => { f with cache := f.cache.put localName (lines ++ [line]) }

def addRule (f : LiveFilter) (files : FileTree) (line : Text) : Edited :=
  let line := line.trim
  let path := f.settings.localRules
  if line.isEmpty then ⟨f, files, .ok false⟩
  else match files.readLinesIfAny path with
    | .error fault => ⟨f, files, .error (.file path fault)⟩
    | .ok stored =>
      if stored.any fun other => Text.trim other == line then ⟨f, files, .ok false⟩
      else match files.appendLine path line with
        | (files, .error failure) => ⟨f, files, .error failure⟩
        | (files, .ok ()) =>
          let f := f.remember line
          match Rule.ofLine line with
          | .ok (some rule) => ⟨{ f with active := f.active.insert rule }, files, .ok true⟩
          | _ => ⟨f, files, .ok false⟩

/-- The text of a file of some lines. A single empty line leaves nothing to write. -/
def fileText (lines : List Text) : Text := if lines = [[]] then [] else Text.unlines lines

def removeRule (f : LiveFilter) (files : FileTree) (line : Text) : Edited :=
  let line := line.trim
  let path := f.settings.localRules
  if line.isEmpty then ⟨f, files, .ok false⟩
  else match files.readLinesIfAny path with
    | .error fault => ⟨f, files, .error (.file path fault)⟩
    | .ok stored =>
      let kept := stored.filter fun other => Text.trim other != line
      if kept.length = stored.length then ⟨f, files, .ok false⟩
      else match files.write path (Utf8.encode (fileText kept)) with
        | .error fault => ⟨f, files, .error (.file path fault)⟩
        | .ok files =>
          let (f, reloaded) := f.reload files
          ⟨f, files, reloaded.map fun _ => true⟩

end LiveFilter

end ContentFilter
