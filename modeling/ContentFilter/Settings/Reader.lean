import ContentFilter.Files
import ContentFilter.Settings.Basic
import ContentFilter.Text.Utf8
import ContentFilter.Toml.Reader

namespace ContentFilter

namespace Subscription

def ofItems? : List Toml.Value → Option Subscription
  | name :: url :: path :: rest => do
    let name ← name.string?
    let url ← url.string?
    let path ← path.string?
    let enabled ← match rest with
      | [] => some true
      | v :: _ => v.boolean?
    some { name, url := some url, path, enabled }
  | _ => none

def ofEntries? (entries : Toml.Entries) : Option Subscription := do
  let name ← (← entries.get? "name".toList).string?
  let path ← (← entries.get? "path".toList).string?
  let url ← match entries.get? "url".toList with
    | none => some none
    | some v => v.string?.map some
  let enabled ← match entries.get? "enabled".toList with
    | none => some true
    | some v => v.boolean?
  some { name, url, path, enabled }

def ofValue? : Toml.Value → Option Subscription
  | .table _ entries => ofEntries? entries
  | v => v.items?.bind ofItems?

end Subscription

namespace Settings

def setting? {α : Type} (entries : Toml.Entries) (key : String) (read : Toml.Value → Option α)
    (default : α) : Option α :=
  match entries.get? key.toList with
  | none => some default
  | some v => read v

/-- A number of days, which fits in 32 bits. -/
def days? (v : Toml.Value) : Option Nat :=
  (v.integer?.filter fun n => 0 ≤ n && n < (UInt32.size : Int)).map Int.toNat

def subscriptions? (v : Toml.Value) : Option (List Subscription) :=
  v.items?.bind fun items => items.mapM Subscription.ofValue?

def ofEntries? (entries : Toml.Entries) : Option Settings := do
  let standard : Settings := {}
  let enabled ← setting? entries "enabled" Toml.Value.boolean? standard.enabled
  let hidesElements ← setting? entries "hide_elements" Toml.Value.boolean? standard.hidesElements
  let updateIntervalDays ←
    setting? entries "update_interval_days" days? standard.updateIntervalDays
  let exemptReferers ←
    setting? entries "exempt_referers" Toml.Value.strings? standard.exemptReferers
  let trustedHosts ← setting? entries "trusted_hosts" Toml.Value.strings? standard.trustedHosts
  let localRules ← setting? entries "local_rules" Toml.Value.string? standard.localRules
  let subscriptions ← setting? entries "subscriptions" subscriptions? standard.subscriptions
  some { enabled, hidesElements, updateIntervalDays, exemptReferers, trustedHosts, localRules,
         subscriptions }

def ofText? (s : Text) : Option Settings := (Toml.read? s).bind ofEntries?

def readText (files : FileTree) (path : Text) : Except FileFault Text :=
  match files.read path with
  | .error fault => .error fault
  | .ok bytes =>
    match Utf8.decode? bytes with
    | some text => .ok text
    | none => .error .notText

def besideFile (s : Settings) (path : Text) : Settings :=
  match Path.parent? path with
  | some base => s.resolvePaths base
  | none => s

/-- The settings in a file. Paths in it are relative to its directory. -/
def load (files : FileTree) (path : Text) : Except Failure Settings :=
  match readText files path with
  | .error fault => .error (.file path fault)
  | .ok text =>
    match ofText? text with
    | some settings => .ok (settings.besideFile path)
    | none => .error (.settings path)

/-- The settings in a file, or the default ones beside it if there are none to read. -/
def loadOrDefault (files : FileTree) (path : Text) : Settings :=
  match load files path with
  | .ok settings => settings
  | .error _ => besideFile {} path

end Settings

end ContentFilter
