import ContentFilter.Command.Run

namespace ContentFilter.Program

def directoryFault : UInt32 := 21

def look (path : Text) : IO (Option FileTree.Entry) := do
  try
    return some (.file (← IO.FS.readBinFile (String.ofList path)).toList)
  catch
    | .inappropriateType _ code _ =>
      return if code = directoryFault then some .directory else none
    | _ => return none

def prefixes (path : Text) : List Text :=
  let parts := Path.parts path
  (List.range parts.length).map fun n => Text.joinWith ['/'] (parts.take (n + 1))

def withPath (files : FileTree) (path : Text) : IO FileTree :=
  (prefixes path).foldlM (fun files path => do
    match files.locate path, ← look path with
    | .ok place, some entry => return files.put place entry
    | _, _ => return files) files

def workingTree : IO FileTree := do
  let path := (← IO.currentDir).toString.toList
  return .emptyAt ((Path.parts path).filter fun part => !part.isEmpty).reverse

def snapshot (command : Command) : IO FileTree := do
  match command with
  | .check lists _ _ _ | .hide lists _ | .stats lists _ => lists.foldlM withPath (← workingTree)
  | .addRule config _ | .removeRule config _ =>
    let files ← withPath (← workingTree) config
    let settings := Settings.loadOrDefault files config
    (settings.localRules :: settings.subscriptions.map (·.path)).foldlM withPath files

def absolutePath (place : Place) : String :=
  String.ofList ('/' :: Text.joinWith ['/'] place.reverse)

def store (old new : FileTree) : IO Unit :=
  new.entries.entries.reverse.forM fun (place, entry) => do
    if old.entryAt? place ≠ some entry then
      match entry with
      | .directory => IO.FS.createDirAll (absolutePath place)
      | .file content => IO.FS.writeBinFile (absolutePath place) ⟨content.toArray⟩

def execute (command : Command) : IO UInt32 := do
  let began ← IO.monoNanosNow
  let old ← snapshot command
  let (new, report) ← IO.lazyPure fun _ => command.run old
  store old new
  let taken := (← IO.monoNanosNow) - began
  match report with
  | .ok printed =>
    let timed := if command.isTimed then [Command.timeLine taken] else []
    IO.print (String.ofList (Text.unlines (printed ++ timed)))
    return 0
  | .error message =>
    IO.eprintln ("Error: " ++ String.ofList message)
    return 1

end ContentFilter.Program

def main (arguments : List String) : IO UInt32 := do
  match ContentFilter.Command.parse (arguments.map (·.toList)) with
  | .ok command => ContentFilter.Program.execute command
  | .error .help =>
    IO.println ContentFilter.Command.usage
    return 0
  | .error (.usage error) =>
    IO.eprintln (String.ofList error.message ++ "\n\n" ++ ContentFilter.Command.usage)
    return 2
