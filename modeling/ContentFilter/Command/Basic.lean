import ContentFilter.Command.Arguments
import ContentFilter.Text.Basic
import ContentFilter.Unicode.Latest

namespace ContentFilter.Text

/-- The halfwidth voicing marks take a place of their own, unlike other marks of their kind. -/
def takesPlace (c : Char) : Bool :=
  c == '\uFF9E' || c == '\uFF9F' || !Unicode.Latest.extendsGrapheme c

/-- Characters that are seen as themselves. The space is the only separator among them, and
fillers, which by default are not drawn, are no more seen than controls are. -/
def isPlain (c : Char) : Bool :=
  c == ' ' || (Unicode.Latest.isVisible c && takesPlace c &&
    !Unicode.Property.defaultIgnorableCodePoint.has c)

def escapeCode (c : Char) : Text :=
  "\\u\x7b".toList ++ Nat.toDigits 16 c.toNat ++ ['\x7d']

def escapeChar (c : Char) : Text :=
  match c with
  | '\x00' => ['\\', '0']
  | '\t' => ['\\', 't']
  | '\n' => ['\\', 'n']
  | '\r' => ['\\', 'r']
  | '"' => ['\\', '"']
  | '\\' => ['\\', '\\']
  | c => if isPlain c then [c] else escapeCode c

def quoted (s : Text) : Text := '"' :: (s.flatMap escapeChar ++ ['"'])

end ContentFilter.Text

namespace ContentFilter

inductive Command
  /-- Judges a request. -/
  | check (lists : List Text) (url site referer : Text)
  /-- Prints the selectors that are hidden on the pages of a host. -/
  | hide (lists : List Text) (host : Text)
  /-- Prints what some lists amount to. -/
  | stats (lists : List Text) (asJson : Bool)
  | addRule (config rule : Text)
  | removeRule (config rule : Text)
  deriving DecidableEq, Repr

namespace Command

inductive Name
  | check | hide | stats | addRule | removeRule
  deriving DecidableEq, Repr

def Name.table : List (Text × Name) :=
  [("check".toList, .check), ("hide".toList, .hide), ("stats".toList, .stats),
    ("add-rule".toList, .addRule), ("remove-rule".toList, .removeRule)]

def Name.ofText? (s : Text) : Option Name := (table.find? (·.1 == s)).map (·.2)

def commonOptions : List OptionSpec :=
  [{ name := "verbose".toList, letter := some 'v', kind := .switch },
    { name := "help".toList, letter := some 'h', kind := .help }]

def listOption : OptionSpec := { name := "list".toList, letter := some 'l', kind := .paths }

def configOption : OptionSpec := { name := "config".toList, letter := some 'c', kind := .path }

def Name.spec : Name → Spec
  | check =>
    { options := commonOptions ++
        [listOption,
          { name := "url".toList, letter := some 'u', kind := .text },
          { name := "site".toList, letter := some 's', kind := .text },
          { name := "referer".toList, letter := some 'r', kind := .text }] }
  | hide =>
    { options := commonOptions ++ [listOption, { name := "host".toList, kind := .text }] }
  | stats =>
    { options := commonOptions ++ [listOption, { name := "json".toList, kind := .switch }] }
  | addRule | removeRule => { options := commonOptions ++ [configOption], operands := 1 }

def defaultConfig : Text := "sieve.toml".toList

def lists (g : Given) : Except Stop (List Text) :=
  match g.values "list" with
  | [] => .error (.usage (.missing "list".toList))
  | paths => .ok paths

def rule (g : Given) : Except Stop Text :=
  match g.operands with
  | [] => .error (.usage (.missing "rule".toList))
  | rule :: _ => .ok rule

def ofGiven (g : Given) : Name → Except Stop Command
  | .check => do
    let paths ← lists g
    let url ← g.required "url"
    .ok (.check paths url ((g.value? "site").getD []) ((g.value? "referer").getD []))
  | .hide => do
    let paths ← lists g
    let host ← g.required "host"
    .ok (.hide paths host)
  | .stats => do
    let paths ← lists g
    .ok (.stats paths (g.has "json"))
  | .addRule => do
    let rule ← rule g
    .ok (.addRule ((g.value? "config").getD defaultConfig) rule)
  | .removeRule => do
    let rule ← rule g
    .ok (.removeRule ((g.value? "config").getD defaultConfig) rule)

def helpFor (names : List Text) : Stop :=
  match names with
  | [] => .help
  | [name] =>
    if (Name.ofText? name).isSome || name == "help".toList then .help
    else .usage (.unknownCommand name)
  | name :: extra :: _ =>
    if (Name.ofText? name).isSome || name == "help".toList then .usage (.unknownCommand extra)
    else .usage (.unknownCommand name)

def ofArguments (given : Given) : List Text → Except Stop Command
  | [] => .error (.usage (.missing "command".toList))
  | argument :: rest =>
    if argument = ['-', '-'] then .error (.usage (.missing "command".toList))
    else if looksLikeOption argument then
      match readArgument { options := commonOptions } (given, none) argument with
      | .error stop => .error stop
      | .ok (given, _) => ofArguments given rest
    else if argument = "help".toList then .error (helpFor rest)
    else match Name.ofText? argument with
      | none => .error (.usage (.unknownCommand argument))
      | some name =>
        match readArguments name.spec ({}, none) rest with
        | .error stop => .error stop
        | .ok given => ofGiven given name

def usage : String :=
  "Usage: content-filter [-v] COMMAND\n\n" ++
    "  check -l LIST... -u URL [-s SITE] [-r REFERER]\n" ++
    "  hide -l LIST... --host HOST\n" ++
    "  stats -l LIST... [--json]\n" ++
    "  add-rule [-c CONFIG] RULE\n" ++
    "  remove-rule [-c CONFIG] RULE"

def parse (arguments : List Text) : Except Stop Command := ofArguments {} arguments

end Command

end ContentFilter
