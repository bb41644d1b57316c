import ContentFilter.Builder
import ContentFilter.Files
import ContentFilter.Settings.Basic
import ContentFilter.Text.Basic
import ContentFilter.Text.Utf8
import ContentFilter.Verdict
/-!
The filter in use: settings, the active rules, and the lines that the lists had when they were last
read. Reloading builds a whole new rule set before it takes the place of the active one. A list
that cannot be read counts with the lines it had last; only if no list has any lines at all to
count with do the active rules stay.
-/
namespace ContentFilter

/-- The lines of a file. Bytes that are no text spoil the lines that they stand in, and no other. -/
def FileTree.readLines (files : FileTree) (path : Text) : Except FileFault (List Text) :=
  (files.read path).map fun bytes => (Utf8.decodeLossy bytes).lines

/-- The lines of a file, of which there are none while the file is missing. -/
def FileTree.readLinesIfAny (files : FileTree) (path : Text) : Except FileFault (List Text) :=
  match files.readLines path with
  | .error .notFound => .ok []
  | result => result

inductive Source
  /-- A file, which may be missing if it is `optional`. -/
  | file (name path : Text) (optional : Bool)
  | text (name content : Text)
  deriving DecidableEq, Repr

namespace Source

def name : Source → Text
  | file name _ _ => name
  | text name _ => name

def readLines (files : FileTree) : Source → Except Failure (List Text)
  | file _ path optional =>
    (if optional then files.readLinesIfAny path else files.readLines path).mapError (.file path)
  | text _ content => .ok content.lines

end Source

/-- The lines of the last successful reading of each list, by name. -/
abbrev LineCache := Table Text (List Text)

structure LiveFilter where
  settings : Settings := {}
  active : RuleSet := {}
  cache : LineCache := {}
  deriving DecidableEq, Repr

namespace LineCache

/-- Reads the sources in order. For each this gives the lines that it contributes, if it has any
lines to contribute; and the lines just read are kept. -/
def gather (files : FileTree) (cache : LineCache) :
    List Source → LineCache × List (Option (List Text))
  | [] => (cache, [])
  | source :: rest =>
    match source.readLines files with
    | .ok lines =>
      let (later, contributions) := gather files (Table.put cache source.name lines) rest
      (later, some lines :: contributions)
    | .error _ =>
      let (later, contributions) := gather files cache rest
      (later, Table.get? cache source.name :: contributions)

end LineCache

namespace LiveFilter

/-- Builds the rules of some sources anew. The tally is that of all their lines. -/
def reloadFrom (f : LiveFilter) (files : FileTree) (sources : List Source) :
    LiveFilter × Except Failure Tally :=
  let (cache, contributions) := f.cache.gather files sources
  let read := contributions.filterMap id
  if !sources.isEmpty && read.isEmpty then
    ({ f with cache }, .error (.noUsableSource sources.length))
  else
    let built := Builder.addLines {} read.flatten
    ({ f with active := built.set, cache }, .ok built.tally)

def localName : Text := "local rules".toList

/-- The lists that are subscribed to, and the rules of the user, which there may be none of yet. -/
def configuredSources (s : Settings) : List Source :=
  s.enabledSubscriptions.map (fun list => .file list.name list.path false) ++
    [.file localName s.localRules true]

def reload (f : LiveFilter) (files : FileTree) : LiveFilter × Except Failure Tally :=
  f.reloadFrom files (configuredSources f.settings)

def shouldBlock (f : LiveFilter) (url site referer : Text) : Bool :=
  !f.settings.isTrusted site &&
    (f.active.judge f.settings.enabled
      (.of url site referer f.settings.exemptReferers)).isBlocked

def hidesOn (f : LiveFilter) (host : Text) : Bool :=
  f.settings.enabled && f.settings.hidesElements && !f.settings.isTrusted host

def selectorsFor (f : LiveFilter) (host : Text) : List Text :=
  if f.hidesOn host then f.active.selectorsFor host else []

def hideIn {Element : Type} [DecidableEq Element] (f : LiveFilter) (d : Document Element)
    (host : Text) : Document Element × List Element :=
  if f.hidesOn host then d.hide f.active.hidden host else (d, [])

end LiveFilter

end ContentFilter
