/-! # Log lines

What a run says while it works: entries of five levels, each with the part of the
program that it comes from.  A run shows those up to a level of its own.
-/
namespace FirmwareTrace.Cli

inductive Level
  | error
  | warn
  | info
  | debug
  | trace
  deriving DecidableEq, Repr

namespace Level

def name : Level → String
  | .error => "ERROR"
  | .warn => "WARN"
  | .info => "INFO"
  | .debug => "DEBUG"
  | .trace => "TRACE"

def rank : Level → Nat
  | .error => 0
  | .warn => 1
  | .info => 2
  | .debug => 3
  | .trace => 4

/-- The level up to which entries are shown; a quiet run shows errors alone. -/
def shown (quiet : Bool) (verbosity : Nat) : Level :=
  if quiet then .error
  else
    match verbosity with
    | 0 => .info
    | 1 => .debug
    | _ => .trace

end Level

inductive Origin
  | command
  | config
  | symbolCaches
  | images
  | libraries
  | decoder
  | watcher
  deriving DecidableEq, Repr

def Origin.name : Origin → String
  | .command => "fwlog"
  | .config => "fwlog_decoder::config"
  | .symbolCaches => "fwlog_decoder::providers::csv"
  | .images => "fwlog_decoder::providers::elf"
  | .libraries => "fwlog_decoder::providers"
  | .decoder => "fwlog_decoder::decoder"
  | .watcher => "fwlog_decoder::watch::inotify"

structure Entry where
  level : Level
  origin : Origin
  message : String
  deriving DecidableEq, Repr

def Entry.line (entry : Entry) : String :=
  "[" ++ entry.level.name ++ " " ++ entry.origin.name ++ "] " ++ entry.message ++ "\n"

/-- The entries that are shown, a line for each. -/
def logText (shown : Level) (entries : List Entry) : String :=
  String.join ((entries.filter fun entry => entry.level.rank ≤ shown.rank).map Entry.line)

end FirmwareTrace.Cli
