import FirmwareTrace.Config.Source

/-! # Arguments

The flags and options of the command line, read from left to right.  An option
takes its value from what is attached to it, or else from the next argument.
Options that are not lists, and flags that are not counted, are given at most
once.
-/
namespace FirmwareTrace.Cli

structure Arguments where
  csv : List Source := []
  elf : List Source := []
  input : Option String := none
  output : Option String := none
  config : Option String := none
  follow : Bool := false
  dump : Bool := false
  verbosity : Nat := 0
  quiet : Bool := false
  deriving DecidableEq, Repr

/-- What the arguments ask for. -/
inductive Request
  | run (arguments : Arguments)
  | help
  | version
  /-- The arguments are no command. -/
  | misuse
  deriving DecidableEq, Repr

/-- What an argument names. -/
inductive Switch
  | sources (format : SourceFormat)
  | input
  | output
  | config
  | follow
  | dump
  | verbose
  | quiet
  | help
  | version
  deriving DecidableEq, Repr

namespace Switch

def ofName? (name : List Char) : Option Switch :=
  match String.ofList name with
  | "csv" => some (.sources .csv)
  | "elf" => some (.sources .elf)
  | "input" => some .input
  | "output" => some .output
  | "config" => some .config
  | "follow" => some .follow
  | "dump-providers" => some .dump
  | "verbose" => some .verbose
  | "quiet" => some .quiet
  | "help" => some .help
  | "version" => some .version
  | _ => none

def ofLetter? : Char → Option Switch
  | 'i' => some .input
  | 'o' => some .output
  | 'c' => some .config
  | 'f' => some .follow
  | 'v' => some .verbose
  | 'q' => some .quiet
  | 'h' => some .help
  | 'V' => some .version
  | _ => none

def takesValue : Switch → Bool
  | .sources _ | .input | .output | .config => true
  | _ => false

end Switch

/-- The result of one more switch. -/
inductive Step
  | go (arguments : Arguments)
  | stop (request : Request)

namespace Arguments

/-- A path given for the first time. -/
def setPath (old : Option String) (value : List Char) (set : String → Arguments) : Step :=
  if old.isSome ∨ value = [] then .stop .misuse else .go (set (String.ofList value))

def setFlag (old : Bool) (arguments : Arguments) : Step :=
  if old then .stop .misuse else .go arguments

/-- Applies an option to its value. -/
def setOption (arguments : Arguments) (switch : Switch) (value : List Char) : Step :=
  match switch with
  | .sources format =>
    match Source.parse (String.ofList value), format with
    | .ok source, .csv => .go { arguments with csv := arguments.csv ++ [source] }
    | .ok source, .elf => .go { arguments with elf := arguments.elf ++ [source] }
    | .error _, _ => .stop .misuse
  | .input => setPath arguments.input value fun path => { arguments with input := some path }
  | .output => setPath arguments.output value fun path => { arguments with output := some path }
  | .config => setPath arguments.config value fun path => { arguments with config := some path }
  | _ => .stop .misuse

/-- Applies a flag. -/
def raise (arguments : Arguments) : Switch → Step
  | .follow => setFlag arguments.follow { arguments with follow := true }
  | .dump => setFlag arguments.dump { arguments with dump := true }
  | .quiet => setFlag arguments.quiet { arguments with quiet := true }
  | .verbose => .go { arguments with verbosity := arguments.verbosity + 1 }
  | .help => .stop .help
  | .version => .stop .version
  | _ => .stop .misuse

end Arguments

/-- The result of one argument: done with, or an option that needs a value. -/
inductive Reading
  | done (step : Step)
  | needs (arguments : Arguments) (switch : Switch)

/-- An argument after two dashes. -/
def readLong (arguments : Arguments) (cs : List Char) : Reading :=
  let (name, attached) := cs.span (· != '=')
  match Switch.ofName? name with
  | none => .done (.stop .misuse)
  | some switch =>
    match switch.takesValue, attached with
    | true, _ :: value => .done (arguments.setOption switch value)
    | true, [] => .needs arguments switch
    | false, [] => .done (arguments.raise switch)
    | false, _ => .done (.stop .misuse)

/-- Letters after a dash: flags, then perhaps an option with the rest as its value. -/
def readShort (arguments : Arguments) : List Char → Reading
  | [] => .done (.go arguments)
  | letter :: rest =>
    match Switch.ofLetter? letter with
    | none => .done (.stop .misuse)
    | some switch =>
      if switch.takesValue then
        match rest with
        | [] => .needs arguments switch
        | '=' :: value => .done (arguments.setOption switch value)
        | value => .done (arguments.setOption switch value)
      else
        match arguments.raise switch with
        | .go arguments => readShort arguments rest
        | .stop request => .done (.stop request)

def readArgument (arguments : Arguments) (cs : List Char) : Reading :=
  match cs with
  | '-' :: '-' :: rest => readLong arguments rest
  | '-' :: first :: rest => readShort arguments (first :: rest)
  | _ => .done (.stop .misuse)

/-- Whether an argument can be the value of the option before it. -/
def isValue : List Char → Bool
  | '-' :: _ :: _ => false
  | _ => true

/-- Reads all arguments.  Nothing may follow two lone dashes. -/
def read (arguments : Arguments) : List String → Request
  | [] => .run arguments
  | "--" :: rest => if rest = [] then .run arguments else .misuse
  | argument :: rest =>
    match readArgument arguments argument.toList with
    | .done (.go arguments) => read arguments rest
    | .done (.stop request) => request
    | .needs arguments switch =>
      match rest with
      | [] => .misuse
      | value :: rest =>
        if isValue value.toList then
          match arguments.setOption switch value.toList with
          | .go arguments => read arguments rest
          | .stop request => request
        else .misuse

end FirmwareTrace.Cli
