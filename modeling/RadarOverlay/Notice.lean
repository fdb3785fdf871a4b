import RadarOverlay.Client
import RadarOverlay.Settings
import RadarOverlay.TagFunction

/-!
What is written to the log: each notice is a cause, with a level and a wording.
-/
namespace RadarOverlay

/-- The weight of a notice; the configured level decides which are logged. -/
inductive NoticeLevel where
  | error
  | warn
  | info
  | debug
  deriving DecidableEq, Repr

def NoticeLevel.name : NoticeLevel → String
  | .error => "error"
  | .warn => "warn"
  | .info => "info"
  | .debug => "debug"

/-- A list of the client that an entry is selected from. -/
inductive SelectionList where
  | profile
  | preset
  | view
  deriving DecidableEq, Repr

/-- A list as log messages begin with it. -/
def SelectionList.name : SelectionList → String
  | .profile => "Profile"
  | .preset => "Preset"
  | .view => "View"

/-- A render pass that shows the client's content. -/
inductive ContentPass where
  | background
  | foreground
  deriving DecidableEq, Repr

def ContentPass.name : ContentPass → String
  | .background => "background"
  | .foreground => "foreground"

/-- Something worth a line in the log. -/
inductive Notice where
  /-- A kept setting cannot be used. -/
  | settingRejected (error : SettingsError)
  /-- The target of the last session is selected again. -/
  | aerodromeRestored (icao : String)
  | settingsApplied (anchor : MenuAnchor) (connection : ConnectionState)
  | idRejected (id : Int32) (error : CodeError)
  /-- A waiting submenu gives way to another. -/
  | requestReplaced (old new : TagFunction)
  | requestFlushed (function : TagFunction)
  /-- Control was asked for without permission. -/
  | controlRefused
  | activitySwitched (activity : ActivityState)
  | aerodromeCleared
  | aerodromeSelected (icao : String)
  /-- A selection points beyond the end of its list. -/
  | indexRejected (list : SelectionList) (index count : Nat)
  | anchorMoved (anchor : MenuAnchor)
  | passSkipped (pass : ContentPass)
  /-- A text with a zero character inside cannot be handed over. -/
  | textRejected (text : String)
  | functionRejected (function : TagFunction) (error : CodeError)
  /-- The host makes no graphics context for a device context. -/
  | graphicsRefused (device : UInt64)
  | screenRefused
  /-- A screen was asked for without a host or without a client. -/
  | tablesMissing
  | screenCreated (geo : Bool)
  | screenDestroyed
  | phaseIgnored (number : Int32)
  | clickIgnored (object : Int32)
  | moveIgnored (object : Int32)
  /-- A session's log is begun, but another logger is installed already: the log stays empty. -/
  | loggerKept
  | started
  | stopped
  deriving DecidableEq, Repr

namespace Notice

def productName : String := "BARS"

def productVersion : String := "0.1.0"

/-- The level that a notice is logged at. -/
def level : Notice → NoticeLevel
  | .tablesMissing => .error
  | .settingRejected _ | .idRejected .. | .controlRefused | .indexRejected .. | .textRejected _
  | .functionRejected .. | .graphicsRefused _ | .screenRefused => .warn
  | .aerodromeRestored _ | .activitySwitched _ | .aerodromeCleared | .aerodromeSelected _
  | .started | .stopped => .info
  | .settingsApplied .. | .requestReplaced .. | .requestFlushed _ | .anchorMoved _ | .passSkipped _
  | .screenCreated _ | .screenDestroyed | .phaseIgnored _ | .clickIgnored _
  | .moveIgnored _ | .loggerKept => .debug

/-- The wording of a notice. -/
def message : Notice → String
  | .settingRejected error => error.message
  | .aerodromeRestored icao => "Restoring aerodrome " ++ icao
  | .settingsApplied anchor connection =>
    "Menu anchor " ++ anchor.text ++ ", client " ++ connection.description
  | .idRejected id error =>
    "Ignoring function id 0x" ++ Text.hexText id.toUInt32.toNat ++ ": " ++ error.message
  | .requestReplaced old new => "Deferred " ++ old.text ++ " replaced by " ++ new.text
  | .requestFlushed function => "Flushing deferred " ++ function.text
  | .controlRefused => "Control toggle without controller permission"
  | .activitySwitched activity => "Switching to " ++ activity.name
  | .aerodromeCleared => "Clearing aerodrome"
  | .aerodromeSelected icao => "Selecting aerodrome " ++ icao
  | .indexRejected list index count =>
    list.name ++ " index " ++ Text.natText index ++ " out of range (" ++ Text.natText count
      ++ " entries)"
  | .anchorMoved anchor => "Menu anchor moved to " ++ anchor.text
  | .passSkipped pass => "Skipping " ++ pass.name ++ " for degenerate viewport"
  | .textRejected text => "Dropping string with interior null: " ++ Text.quoted text
  | .functionRejected function error =>
    "Cannot encode " ++ function.text ++ ": " ++ error.message
  | .graphicsRefused device =>
    "No graphics context for device context 0x" ++ Text.hexText device.toNat
  | .screenRefused => "Client refused to create a screen"
  | .tablesMissing => "bars_screen_create called without function tables"
  | .screenCreated geo => "Created " ++ (if geo then "geographic" else "planar") ++ " screen"
  | .screenDestroyed => "Destroyed screen"
  | .phaseIgnored number => "Ignoring refresh phase " ++ Text.intText number.toInt
  | .clickIgnored object => "Ignoring click on object kind " ++ Text.intText object.toInt
  | .moveIgnored object => "Ignoring move of object kind " ++ Text.intText object.toInt
  | .loggerKept =>
    "Logger already installed: "
      ++ "attempted to set a logger after the logging system was already initialized"
  | .started => productName ++ " " ++ productVersion ++ " started"
  | .stopped => productName ++ " stopped"

end Notice

end RadarOverlay
