import RadarOverlay.Configuration
import RadarOverlay.Notice
import RadarOverlay.SessionLog.Disk

/-!
The plugin as a whole: it is loaded with a configuration document and unloaded at the
end. Loading begins the session's log in the configured directory, if there is one. A
plugin that cannot be loaded says so by its code only.
-/
namespace RadarOverlay

open SessionLog (Disk Moment Path)

/-- Why the plugin cannot be loaded. -/
inductive LoadError where
  /-- The configuration is no document of the right form. -/
  | badConfiguration
  /-- The session's log cannot be begun. -/
  | logUnavailable
  deriving DecidableEq, Repr

def LoadError.code : LoadError → Int32
  | .badConfiguration => -1
  | .logUnavailable => -2

/-- The code of an attempt to load; 0 stands for success. -/
def loadCode : Except LoadError Unit → Int32
  | .ok () => 0
  | .error cause => cause.code

/-- What an attempt to load leaves behind. -/
structure Loading where
  result : Except LoadError Unit
  disk : Disk
  notices : List Notice

namespace Plugin

/-- Load the plugin with a configuration document. The log is begun before anything is noted. -/
def load (document : List UInt8) (moment : Moment) (disk : Disk) : Loading :=
  match Configuration.parse? document with
  | none => ⟨.error .badConfiguration, disk, []⟩
  | some configuration =>
    match configuration.logDirectory with
    | none => ⟨.ok (), disk, [.started]⟩
    | some directory =>
      match disk.beginLog (.ofText directory) moment with
      | (disk, none) => ⟨.error .logUnavailable, disk, []⟩
      | (disk, some _) => ⟨.ok (), disk, [.loggerKept, .started]⟩

/-- What is noted when the plugin is unloaded. -/
def unload : List Notice := [.stopped]

end Plugin

end RadarOverlay
