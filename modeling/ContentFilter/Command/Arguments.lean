import ContentFilter.Text.Basic
/-!
Reading command line arguments. An option is written `--name value`, `--name=value`, `-n value`,
`-nvalue` or `-n=value`; switches take no value and can share a hyphen. After `--` nothing is an
option any more. A value on its own does not begin with a hyphen, unless it is just that.
-/
namespace ContentFilter.Command

inductive OptionKind
  | switch
  | text
  /-- A path, which is not empty. -/
  | path
  /-- Paths, one each time that the option is given. -/
  | paths
  /-- Asks for help, whatever else is given. -/
  | help
  deriving DecidableEq, Repr

namespace OptionKind

def takesValue : OptionKind → Bool
  | switch | help => false
  | text | path | paths => true

def isRepeatable : OptionKind → Bool
  | paths => true
  | _ => false

def allows (kind : OptionKind) (value : Text) : Bool :=
  match kind with
  | path | paths => !value.isEmpty
  | _ => true

end OptionKind

structure OptionSpec where
  name : Text
  letter : Option Char := none
  kind : OptionKind
  deriving DecidableEq, Repr

structure Spec where
  options : List OptionSpec
  operands : Nat := 0
  deriving DecidableEq, Repr

inductive UsageError
  | unknownOption (argument : Text)
  | missingValue (option : Text)
  | unexpectedValue (option : Text)
  | invalidValue (option : Text)
  | repeated (option : Text)
  | unexpected (argument : Text)
  | missing (what : Text)
  | unknownCommand (name : Text)
  deriving DecidableEq, Repr

namespace UsageError

def message : UsageError → Text
  | unknownOption argument => "no such option: ".toList ++ argument
  | missingValue option => "a value is missing for option ".toList ++ option
  | unexpectedValue option => "no value is expected for option ".toList ++ option
  | invalidValue option => "the value cannot be used for option ".toList ++ option
  | repeated option => "given more than once: option ".toList ++ option
  | unexpected argument => "unexpected argument: ".toList ++ argument
  | missing what => "missing: ".toList ++ what
  | unknownCommand name => "no such command: ".toList ++ name

end UsageError

inductive Stop
  | help
  | usage (error : UsageError)
  deriving DecidableEq, Repr

structure Given where
  options : List (Text × Text) := []
  operands : List Text := []
  deriving DecidableEq, Repr

namespace Given

def values (g : Given) (name : String) : List Text :=
  (g.options.filter (·.1 == name.toList)).map (·.2)

def value? (g : Given) (name : String) : Option Text := (g.values name).head?

def has (g : Given) (name : String) : Bool := !(g.values name).isEmpty

def required (g : Given) (name : String) : Except Stop Text :=
  match g.value? name with
  | some value => .ok value
  | none => .error (.usage (.missing name.toList))

def addOption (g : Given) (option : OptionSpec) (value : Text) : Except Stop Given :=
  if option.kind = .help then .error .help
  else if !option.kind.allows value then .error (.usage (.invalidValue option.name))
  else if !option.kind.isRepeatable && g.options.any (·.1 == option.name) then
    .error (.usage (.repeated option.name))
  else .ok { g with options := g.options ++ [(option.name, value)] }

def addOperand (spec : Spec) (g : Given) (operand : Text) : Except Stop Given :=
  if g.operands.length < spec.operands then .ok { g with operands := g.operands ++ [operand] }
  else .error (.usage (.unexpected operand))

end Given

abbrev Progress := Given × Option OptionSpec

def readLong (spec : Spec) (g : Given) (body : Text) : Except Stop Progress :=
  let (name, attached) := body.span (· != '=')
  match spec.options.find? (·.name == name), attached with
  | none, _ => .error (.usage (.unknownOption name))
  | some option, [] =>
    if option.kind.takesValue then .ok (g, some option)
    else (g.addOption option []).map (·, none)
  | some option, _ :: value =>
    if option.kind.takesValue then (g.addOption option value).map (·, none)
    else .error (.usage (.unexpectedValue name))

/-- Reads letters that share a hyphen. The first option that takes a value takes the rest. -/
def readLetters (spec : Spec) (g : Given) : Text → Except Stop Progress
  | [] => .ok (g, none)
  | c :: r =>
    match spec.options.find? (·.letter == some c) with
    | none => .error (.usage (.unknownOption [c]))
    | some option =>
      if option.kind.takesValue then
        match r with
        | [] => .ok (g, some option)
        | '=' :: value => (g.addOption option value).map (·, none)
        | value => (g.addOption option value).map (·, none)
      else
        match g.addOption option [] with
        | .error stop => .error stop
        | .ok g => readLetters spec g r

def looksLikeOption : Text → Bool
  | '-' :: _ :: _ => true
  | _ => false

def readArgument (spec : Spec) (progress : Progress) (argument : Text) : Except Stop Progress :=
  match progress with
  | (g, some option) =>
    if looksLikeOption argument then .error (.usage (.missingValue option.name))
    else (g.addOption option argument).map (·, none)
  | (g, none) =>
    match argument with
    | '-' :: '-' :: body => readLong spec g body
    | '-' :: c :: r => readLetters spec g (c :: r)
    | operand => (g.addOperand spec operand).map (·, none)

def readArguments (spec : Spec) : Progress → List Text → Except Stop Given
  | (g, none), [] => .ok g
  | (_, some option), [] => .error (.usage (.missingValue option.name))
  | progress, argument :: rest =>
    if argument = ['-', '-'] ∧ progress.2 = none then rest.foldlM (Given.addOperand spec) progress.1
    else match readArgument spec progress argument with
      | .error stop => .error stop
      | .ok progress => readArguments spec progress rest

end ContentFilter.Command
