import RadarOverlay.Json.Document

/-!
The configuration document given to the plugin when it is loaded: where the log files
go and how much is logged. A document without content means the defaults. The document
is read strictly, but the strings of fields that are not known are skipped unread.
-/
namespace RadarOverlay

open Json (Document RawString)

/-- How much is logged. -/
inductive LogLevel where
  | off
  | error
  | warn
  | info
  | debug
  | trace
  deriving DecidableEq, Repr

namespace LogLevel

/-- Every level, from the least to the most. -/
def all : List LogLevel := [.off, .error, .warn, .info, .debug, .trace]

/-- A level as it is configured. -/
def name : LogLevel → String
  | .off => "off"
  | .error => "error"
  | .warn => "warn"
  | .info => "info"
  | .debug => "debug"
  | .trace => "trace"

/-- The level of a name, in whatever case its ASCII letters are. -/
def ofName? (text : String) : Option LogLevel :=
  all.find? fun level => text.toList.map Char.toLower == level.name.toList

end LogLevel

/-- The plugin's configuration. -/
structure Configuration where
  /-- The directory of the log files; without one there are none. -/
  logDirectory : Option String
  logLevel : Option String
  deriving DecidableEq, Repr

namespace Configuration

/-- What an empty document means: no log files, and the default level. -/
def default : Configuration := ⟨none, none⟩

/-- The log level, `info` if none or an unknown one is configured. -/
def level (c : Configuration) : LogLevel := (c.logLevel.bind LogLevel.ofName?).getD .info

/-- An optional text: null or a string that is text. -/
def optionalText? : Document → Option (Option String)
  | .null => some none
  | .string raw => (RawString.text? raw).map some
  | _ => none

/-- The document of the only field with a name; refused if there is more than one. -/
def onlyField? (name : String) (fields : List (String × Document)) : Option (Option Document) :=
  match fields.filter (·.1 == name) with
  | [] => some none
  | [(_, document)] => some (some document)
  | _ => none

/-- The optional text of a field; a missing field is none. -/
def textField? (name : String) (fields : List (String × Document)) : Option (Option String) := do
  match ← onlyField? name fields with
  | some document => optionalText? document
  | none => return none

/-- The configuration in a document: an object with the two fields, or a list of up to two
items in their order. The names of all fields have to be text. -/
def ofDocument? : Document → Option Configuration
  | .object fields => do
    let named ← fields.mapM fun (raw, document) => do return (← RawString.text? raw, document)
    return ⟨← textField? "logDir" named, ← textField? "logLevel" named⟩
  | .list [] => some default
  | .list [directory] => do return ⟨← optionalText? directory, none⟩
  | .list [directory, level] => do return ⟨← optionalText? directory, ← optionalText? level⟩
  | _ => none

/-- White space of a document without content: also the form feed counts. -/
def isAsciiSpace (octet : UInt8) : Bool := Json.isSpace octet || octet == 0x0c

/-- The configuration that the octets of a document are, if they are one. -/
def parse? (octets : List UInt8) : Option Configuration :=
  if octets.all isAsciiSpace then some default else do ofDocument? (← Document.read? octets)

end Configuration

end RadarOverlay
