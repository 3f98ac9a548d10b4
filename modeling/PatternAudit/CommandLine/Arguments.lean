import PatternAudit.Text.Utf8

/-! The arguments of the command line, which are byte strings. Options may stand anywhere, those for
all commands also before the command; none is given twice at one place, and no path is empty.
-/

namespace PatternAudit.CommandLine

/-- How a report is shown. -/
inductive Style where
  | text
  | json
  | compact
  deriving DecidableEq, Repr

namespace Style

/-- The name of a style. -/
def name : Style → String
  | text => "text"
  | json => "json"
  | compact => "compact"

/-- The style of a name. -/
def ofName? (name : Bytes) : Option Style :=
  [text, json, compact].find? fun style => Utf8.ofString style.name == name

end Style

/-- What is to be done. -/
inductive Command where
  /-- Audit a file in scope, or else a tree. -/
  | check (target : Option Bytes) (root : Bytes) (style : Style)
  | listRules
  | init (force yaml : Bool)
  deriving DecidableEq, Repr

/-- A command and the configuration file that is named for it. -/
structure Invocation where
  config : Option Bytes
  command : Command
  deriving DecidableEq, Repr

/-- Why arguments give no invocation. -/
inductive Exit where
  | usage
  | help
  | version
  deriving DecidableEq, Repr

namespace Arguments

/-- The options. -/
inductive Flag where
  | verbose
  | config
  | root
  | format
  | force
  | yaml
  | help
  | version
  deriving DecidableEq, Repr

namespace Flag

/-- The letter of an option. -/
def letter? : Flag → Option Char
  | verbose => some 'v'
  | config => some 'c'
  | root => some 'r'
  | format => some 'f'
  | help => some 'h'
  | version => some 'V'
  | force => none
  | yaml => none

/-- The word of an option. -/
def word : Flag → String
  | verbose => "verbose"
  | config => "config"
  | root => "root"
  | format => "format"
  | force => "force"
  | yaml => "yaml"
  | help => "help"
  | version => "version"

/-- Whether a value follows an option. -/
def takesValue : Flag → Bool
  | config => true
  | root => true
  | format => true
  | _ => false

/-- Whether a value can be that of an option. -/
def accepts : Flag → Bytes → Bool
  | format, value => (Style.ofName? value).isSome
  | _, value => !value.isEmpty

end Flag

/-- What was given: options with their values, and operands. -/
structure Given where
  values : List (Flag × Bytes) := []
  operands : List Bytes := []

namespace Given

/-- The value of an option. -/
def value? (given : Given) (flag : Flag) : Option Bytes :=
  given.values.lookup flag

/-- Whether an option was given. -/
def has (given : Given) (flag : Flag) : Bool :=
  (given.value? flag).isSome

/-- Adds an option with a value. -/
def add (given : Given) (flag : Flag) (value : Bytes) : Except Exit Given :=
  if given.has flag || !flag.accepts value then .error .usage
  else .ok { given with values := (flag, value) :: given.values }

/-- Adds an option without a value. -/
def mark (given : Given) (flag : Flag) : Except Exit Given :=
  match flag with
  | .help => .error .help
  | .version => .error .version
  | flag =>
    if given.has flag then .error .usage
    else .ok { given with values := (flag, []) :: given.values }

end Given

/-- What one argument gives, and the option of which the value is still to come. -/
abbrev Step := Except Exit (Given × Option Flag)

/-- The byte that begins an option. -/
def dash : UInt8 := 0x2D

/-- The byte between an option and its value. -/
def equals : UInt8 := 0x3D

/-- Options by their letters. What follows the letter of an option with a value is that value. -/
def letters (flags : List Flag) (given : Given) : Bytes → Step
  | [] => .ok (given, none)
  | byte :: rest =>
    match flags.find? fun flag => flag.letter?.map Utf8.encodeChar == some [byte] with
    | none => .error .usage
    | some flag =>
      if flag.takesValue then
        match rest with
        | [] => .ok (given, some flag)
        | next :: value => do
          return (← given.add flag (if next = equals then value else next :: value), none)
      else do
        letters flags (← given.mark flag) rest

/-- An option by its word, perhaps with an equals sign and its value. -/
def word (flags : List Flag) (given : Given) (text : Bytes) : Step :=
  let name := text.takeWhile (· != equals)
  match flags.find? fun flag => Utf8.ofString flag.word == name, text.dropWhile (· != equals) with
  | none, _ => .error .usage
  | some flag, [] =>
    if flag.takesValue then .ok (given, some flag)
    else do return (← given.mark flag, none)
  | some flag, _ :: value =>
    if flag.takesValue then do return (← given.add flag value, none)
    else .error .usage

/-- Whether an argument is an option or the mark after which there are none. A lone dash is neither.
-/
def isOption : Bytes → Bool
  | first :: _ :: _ => first == dash
  | _ => false

/-- What an argument that is an option gives. -/
def option (flags : List Flag) (given : Given) (argument : Bytes) : Step :=
  match isOption argument, argument.drop 1 with
  | true, second :: text =>
    if second = dash then word flags given text else letters flags given (second :: text)
  | _, _ => .error .usage

/-- Gives an option the argument that follows it. -/
def addNext (given : Given) (flag : Flag) (argument : Bytes) : Except Exit Given :=
  if isOption argument then .error .usage else given.add flag argument

/-- The options of every command. -/
def sharedFlags : List Flag :=
  [.verbose, .config, .help]

/-- The commands. -/
def commandNames : List String :=
  ["check", "list-rules", "init", "help"]

/-- The command that an argument names. -/
def commandName? (argument : Bytes) : Option String :=
  commandNames.find? fun name => Utf8.ofString name == argument

/-- The options before the command, the command, and the arguments after it. -/
def beforeCommand (given : Given) (pending : Option Flag)
    : List Bytes → Except Exit (Given × String × List Bytes)
  | [] => .error .usage
  | argument :: rest => do
    match pending, commandName? argument with
    | some flag, _ => beforeCommand (← addNext given flag argument) none rest
    | none, some name => return (given, name, rest)
    | none, none =>
      if argument = [dash, dash] then throw .usage
      else
        let (given, pending) ← option (.version :: sharedFlags) given argument
        beforeCommand given pending rest

/-- The options and operands after the command. After two dashes there are only operands. -/
def afterCommand (flags : List Flag) (given : Given) (pending : Option Flag) (operandsOnly : Bool)
    : List Bytes → Except Exit Given
  | [] => if pending.isSome then .error .usage else .ok given
  | argument :: rest => do
    match pending with
    | some flag => afterCommand flags (← addNext given flag argument) none operandsOnly rest
    | none =>
      if operandsOnly || !isOption argument then
        afterCommand flags { given with operands := given.operands ++ [argument] } none operandsOnly
          rest
      else if argument = [dash, dash] then afterCommand flags given none true rest
      else
        let (given, pending) ← option flags given argument
        afterCommand flags given pending operandsOnly rest

/-- The command of a name. -/
def command? (name : String) (given : Given) : Except Exit Command :=
  match name, given.operands with
  | "check", operands => do
    let target ←
      match operands with
      | [] => pure none
      | [target] => if target.isEmpty then throw .usage else pure (some target)
      | _ => throw .usage
    let style := (given.value? .format).bind Style.ofName?
    return .check target ((given.value? .root).getD (Utf8.ofString ".")) (style.getD .text)
  | "list-rules", [] => return .listRules
  | "init", [] => return .init (given.has .force) (given.has .yaml)
  | _, _ => .error .usage

/-- The options of a command. -/
def flagsOf : String → List Flag
  | "check" => .root :: .format :: sharedFlags
  | "init" => .force :: .yaml :: sharedFlags
  | _ => sharedFlags

/-- The configuration file that is named: after the command, before it, or by the environment, whose
value counts at each place where none is named and may not be empty there.
-/
def configOf (environment : Option Bytes) (before after : Given) : Except Exit (Option Bytes) :=
  if environment == some [] && !(before.has .config && after.has .config) then .error .usage
  else .ok (after.value? .config <|> before.value? .config <|> environment)

/-- What a request for help gives: at most one name of a command may follow it. -/
def helpExit : List Bytes → Exit
  | [] => .help
  | [name] => if (commandName? name).isSome then .help else .usage
  | _ => .usage

/-- The invocation that arguments describe. -/
def parse (environment : Option Bytes) (arguments : List Bytes) : Except Exit Invocation := do
  let (before, name, rest) ← beforeCommand {} none arguments
  if name = "help" then throw (helpExit rest)
  let given ← afterCommand (flagsOf name) {} none false rest
  let command ← command? name given
  let config ← configOf environment before given
  return { config, command }

end Arguments

end PatternAudit.CommandLine
