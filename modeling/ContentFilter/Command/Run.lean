import ContentFilter.Command.Basic
import ContentFilter.Live.CustomRules
import ContentFilter.Settings.Reader

namespace ContentFilter

namespace Verdict

def describe : Verdict → Text
  | disabled => "Disabled".toList
  | unsupportedScheme => "UnsupportedScheme".toList
  | exemptReferer => "ExemptReferer".toList
  | allowedHost => "WhitelistHost".toList
  | allowedBy source => "WhitelistRule(".toList ++ source.quoted ++ [')']
  | blockedHost => "BlacklistHost".toList
  | blockedBy source => "BlacklistRule(".toList ++ source.quoted ++ [')']
  | noMatch => "NoMatch".toList

end Verdict

namespace Tally

def fields (t : Tally) : List (String × Nat) :=
  [("lines", t.lines), ("skipped", t.skipped), ("dropped", t.dropped),
    ("whitelist_hosts", t.allowedHosts), ("whitelist_rules", t.allowRules),
    ("blacklist_hosts", t.blockedHosts), ("blacklist_rules", t.blockRules),
    ("null_rules", t.nullRules), ("hiding_rules", t.hidingRules)]

def jsonFields : List (String × Nat) → List Text
  | [] => []
  | [(name, n)] => [("  \"" ++ name ++ "\": " ++ toString n).toList]
  | (name, n) :: rest => ("  \"" ++ name ++ "\": " ++ toString n ++ ",").toList :: jsonFields rest

def json (t : Tally) : List Text := [['\x7b']] ++ jsonFields t.fields ++ [['\x7d']]

end Tally

namespace Command

abbrev Report := Except Text (List Text)

def loadLists (files : FileTree) (paths : List Text) : Except Text (LiveFilter × Tally) :=
  let sources := paths.map fun path => Source.file ((Path.fileName? path).getD []) path false
  match ({} : LiveFilter).reloadFrom files sources with
  | (f, .ok tally) => .ok (f, tally)
  | (_, .error failure) => .error failure.message

def checkLines (f : LiveFilter) (url site referer : Text) : List Text :=
  let site := Url.hostOf site
  let request := Request.of url site referer []
  let verdict := f.active.judge true request
  let party := "  Third-party: " ++ (if request.party = .third then "true" else "false")
  [(if verdict.isBlocked then "BLOCK " else "ALLOW ").toList ++ url,
    "  Reason:      ".toList ++ verdict.describe] ++
    (if site.isEmpty then [] else [party.toList])

def statsLines (lists : Nat) (tally : Tally) (counts : RuleSet.Counts) : List Text :=
  [s!"Loaded {lists} filter lists".toList,
    s!"  Lines:       {tally.lines} ({tally.skipped} skipped, {tally.dropped} dropped)".toList,
    s!"  Whitelist:   {counts.allowedHosts} hosts, {counts.allowRules} rules".toList,
    (s!"  Blacklist:   {counts.blockedHosts} hosts, {counts.blockRules} rules " ++
      s!"({tally.nullRules} never match)").toList,
    (s!"  Hiding:      {counts.generic} generic, {counts.perDomain} per-domain, " ++
      s!"{counts.exempt} exceptions").toList]

def loadConfigured (files : FileTree) (config rule : Text) : Except Text LiveFilter :=
  if rule.trim.isEmpty then .error "Empty rule".toList
  else match ({ settings := .loadOrDefault files config } : LiveFilter).reload files with
    | (f, .ok _) => .ok f
    | (_, .error failure) => .error failure.message

def quote (s : Text) : Text := '\x27' :: (s ++ ['\x27'])

def addedMessage (rule path : Text) : Text :=
  "Added ".toList ++ quote rule.trim ++ " to ".toList ++ quote path

def notAddedMessage (rule path : Text) : Text :=
  "No new rule from ".toList ++ quote rule.trim ++ " (already in ".toList ++ quote path ++
    " or not a filter)".toList

def removedMessage (rule path : Text) : Text :=
  "Removed ".toList ++ quote rule.trim ++ " from ".toList ++ quote path

def notRemovedMessage (rule path : Text) : Text :=
  quote rule.trim ++ " is not in ".toList ++ quote path

def edit (files : FileTree) (config rule : Text)
    (change : LiveFilter → FileTree → Text → Edited)
    (report : Bool → Text → Report) : FileTree × Report :=
  match loadConfigured files config rule with
  | .error message => (files, .error message)
  | .ok f =>
    let edited := change f files rule
    (edited.files,
      match edited.result with
      | .ok changed => report changed f.settings.localRules
      | .error failure => .error failure.message)

def run (files : FileTree) : Command → FileTree × Report
  | check lists url site referer =>
    (files, (loadLists files lists).map fun (f, _) => checkLines f url site referer)
  | hide lists host =>
    (files, (loadLists files lists).map fun (f, _) => f.selectorsFor (Url.hostOf host))
  | stats lists asJson =>
    (files, (loadLists files lists).map fun (f, tally) =>
      if asJson then tally.json else statsLines lists.length tally f.active.counts)
  | addRule config rule =>
    edit files config rule LiveFilter.addRule fun added path =>
      .ok [if added then addedMessage rule path else notAddedMessage rule path]
  | removeRule config rule =>
    edit files config rule LiveFilter.removeRule fun removed path =>
      if removed then .ok [removedMessage rule path] else .error (notRemovedMessage rule path)

def isTimed : Command → Bool
  | stats _ asJson => !asJson
  | _ => false

def timeLine (nanoseconds : Nat) : Text :=
  let tenths := (nanoseconds + 50000) / 100000
  s!"  Time:        {tenths / 10}.{tenths % 10}ms".toList

end Command

end ContentFilter
