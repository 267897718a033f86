import FirmwareTrace.Failure

/-! # Failure reports

A run that fails says what it could not do and, below that, the causes from the
nearest to the first.  They are numbered if there is more than one.
-/
namespace FirmwareTrace.Cli

structure Report where
  message : String
  causes : List String := []
  deriving DecidableEq, Repr

namespace Report

/-- A report of what could not be done because of a failure. -/
def ofFailure (message : String) (failure : Failure) : Report :=
  ⟨message, failure.message :: failure.causes⟩

def ofIoFault (message : String) (fault : IoFault) : Report := ⟨message, [fault.message]⟩

/-- A text with the same characters in front of every line but the first. -/
def indentFrom (indent : List Char) (cs : List Char) : List Char :=
  cs.flatMap fun c => if c = '\n' then '\n' :: indent else [c]

/-- A cause behind its number, if it has one. -/
def causeText (number : Option Nat) (cause : String) : String :=
  let lead := match number with
    | none => [' ', ' ', ' ', ' ']
    | some n => Numeral.padLeft ' ' 5 (Numeral.decimal n) ++ [':', ' ']
  String.ofList (lead ++ indentFrom (lead.map fun _ => ' ') cause.toList)

def causeTexts : List String → List String
  | [cause] => [causeText none cause]
  | causes => causes.zipIdx.map fun c => causeText (some c.2) c.1

def text (report : Report) : String :=
  "Error: " ++ report.message ++ "\n" ++
    (if report.causes = [] then "" else "\nCaused by:\n") ++
    String.join ((causeTexts report.causes).map fun cause => cause ++ "\n")

end Report
end FirmwareTrace.Cli
