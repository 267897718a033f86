import FirmwareTrace.Text.Quoted

/-! # Failures

Everything that can go wrong while providers are built and traces are decoded,
by cause.  The wording of each cause stands in its `message`.
-/
namespace FirmwareTrace

/-- A failed access to a file or a stream. -/
inductive IoFault
  | notFound
  | notDirectory
  | isDirectory
  | nameTooLong
  | nulInPath
  | invalidArgument
  | notUtf8
  | shortWrite
  | other (message : String)
  deriving DecidableEq, Repr

def IoFault.message : IoFault → String
  | .notFound => "No such file or directory (os error 2)"
  | .notDirectory => "Not a directory (os error 20)"
  | .isDirectory => "Is a directory (os error 21)"
  | .nameTooLong => "File name too long (os error 36)"
  | .nulInPath => "file name contained an unexpected NUL byte"
  | .invalidArgument => "Invalid argument (os error 22)"
  | .notUtf8 => "stream did not contain valid UTF-8"
  | .shortWrite => "failed to write whole buffer"
  | .other message => message

/-- A failure of a file watcher. -/
inductive WatchFault
  | alreadySubscribed (path : String)
  | notSubscribed
  | invalidTarget (path : String)
  | closed
  | io (cause : IoFault)
  deriving DecidableEq, Repr

def WatchFault.message : WatchFault → String
  | .alreadySubscribed path => "already subscribed to " ++ Text.quoted path
  | .notSubscribed => "not subscribed to any file"
  | .invalidTarget path => "cannot watch " ++ Text.quoted path ++ ": path has no file name"
  | .closed => "watcher was closed"
  | .io cause => "watch I/O error: " ++ cause.message

/-- A configuration that describes no usable run. -/
inductive ConfigFault
  | noProviders
  | emptyPath
  | badLibraryId (text : String)
  | missingLibraryId (source : String)
  | emptySourcePath (source : String)
  | unknownFormat (text : String)
  deriving DecidableEq, Repr

def ConfigFault.message : ConfigFault → String
  | .noProviders => "at least one provider source is required"
  | .emptyPath => "provider source with an empty path"
  | .badLibraryId text => "invalid library id '" ++ text ++ "'"
  | .missingLibraryId source =>
    "provider source '" ++ source ++ "' must have the form PATH:LIBRARY_ID"
  | .emptySourcePath source => "provider source '" ++ source ++ "' has an empty path"
  | .unknownFormat text => "unknown provider format '" ++ text ++ "'"

/-- An image that cannot be read as a container of literals. -/
inductive ContainerFault
  | malformed
  | truncatedHeader
  | truncatedText
  deriving DecidableEq, Repr

def ContainerFault.message : ContainerFault → String
  | .malformed => "Invalid ELF container"
  | .truncatedHeader =>
    "Invalid ELF container: section data truncated while reading literal header"
  | .truncatedText => "Invalid ELF container: section data truncated while reading literal text"

inductive Failure
  | badRecord (line : Nat) (record : String)
  | unreadableSource (path : String) (cause : IoFault)
  | badContainer (cause : ContainerFault)
  | missingSection (name : String)
  | watch (cause : WatchFault)
  | config (cause : ConfigFault)
  | io (cause : IoFault)
  deriving DecidableEq, Repr

namespace Failure

def message : Failure → String
  | .badRecord line record =>
    "Invalid provider record at line " ++ String.ofList (Numeral.decimal line) ++ ": \"" ++ record
      ++ "\""
  | .unreadableSource path cause =>
    "Failed to read provider source " ++ Text.quoted path ++ ": " ++ cause.message
  | .badContainer cause => cause.message
  | .missingSection name => "Required section not found: " ++ name
  | .watch cause => "File watch failed: " ++ cause.message
  | .config cause => "Invalid configuration: " ++ cause.message
  | .io cause => "IO error: " ++ cause.message

/-- The messages of the failures behind this one, outermost first. -/
def causes : Failure → List String
  | .unreadableSource _ cause => [cause.message]
  | .watch (.io cause) => [WatchFault.message (.io cause), cause.message]
  | .watch cause => [cause.message]
  | .io cause => [cause.message]
  | _ => []

/-- Whether the failure is classed as one of a provider build. -/
def isProviderError : Failure → Bool
  | .badRecord .. | .unreadableSource .. | .badContainer _ | .missingSection _ => true
  | _ => false

end Failure
end FirmwareTrace
