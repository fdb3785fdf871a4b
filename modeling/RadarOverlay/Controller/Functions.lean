import RadarOverlay.Controller.Menus
import RadarOverlay.Controller.Restoring

/-!
Calls of tag functions. A submenu request is not carried out at once but parked, the
last request replacing the one before it; everything else is carried out at once.
Selections and the control toggle are checked against the client and the host at the
time of the call. After every call the background is redrawn if the client asks for it.
-/
namespace RadarOverlay

/-- The client's list that a selection is taken from. -/
def SelectionList.request : SelectionList → Callback (List String)
  | .profile => Overlay.askClient .profiles
  | .preset => Overlay.askClient .presets
  | .view => Overlay.askClient .views

/-- The command that selects an entry of a list. -/
def SelectionList.select (list : SelectionList) (index : Nat) : ClientCommand :=
  match list with
  | .profile => .setProfile index
  | .preset => .applyPreset index
  | .view => .setView index

/-- The function that an entry of a list calls. -/
def SelectionList.submit (list : SelectionList) (index : Nat) : TagFunction :=
  match list with
  | .profile => .submitSelectProfile index
  | .preset => .submitSelectPreset index
  | .view => .submitSelectView index

namespace Overlay

/-- Pass the client's wish for a new background on to the host. -/
def refreshIfRequired : Callback Unit := do
  if ← askClient .takeRedraw then
    tellHost .refreshMapContent

/-- Select an entry, if the list has it now. -/
def select (list : SelectionList) (index : Nat) : Callback Unit := do
  let entries ← list.request
  if index < entries.length then
    tellClient (list.select index)
  else
    note (.indexRejected list index entries.length)

/-- Toggle control, if that is allowed now. -/
def toggleControlling : Callback Unit := do
  if ← canControl then
    let activity := (← askClient .activity).toggled
    note (.activitySwitched activity)
    tellClient (.setActivity activity)
  else
    note .controlRefused

/-- Open the edit of the target, with the present one in it. -/
def editAerodrome (area : Rect) : Callback Unit := do
  let current ← askClient .aerodrome
  tellHost (.openPopupEdit area .submitEditAerodrome (current.getD ""))

/-- Take a submitted target: white space around it is dropped, and nothing left means none. -/
def submitAerodrome (text : String) : Callback Unit := do
  let icao := Text.trim text
  if icao = "" then
    note .aerodromeCleared
    tellClient (.setAerodrome none)
  else
    note (.aerodromeSelected icao)
    tellClient (.setAerodrome (some icao))
  saveAerodrome icao

/-- Carry a function out at once. The text is that of a submitted edit; a popup opens next to the
area. -/
def perform (geo : Bool) (function : TagFunction) (text : String) (area : Rect) : Callback Unit :=
  match function with
  | .none => pure ()
  | .openMenu => openMenu geo area
  | .openEditAerodrome => editAerodrome area
  | .submitEditAerodrome => submitAerodrome text
  | .toggleControlling => toggleControlling
  | .openSelectProfile _ => openProfiles area
  | .openSelectPreset _ => openPresets area
  | .openSelectView _ => openViews area
  | .submitSelectProfile index => select .profile index
  | .submitSelectPreset index => select .preset index
  | .submitSelectView index => select .view index

/-- Park a submenu for the next decoration pass. -/
def park (function : TagFunction) (area : Rect) : Callback Unit := do
  let memory ← readMemory
  let (replaced, pending) := memory.pending.defer ⟨function, area⟩
  writeMemory { memory with pending := pending }
  if let some old := replaced then
    note (.requestReplaced old.function function)

/-- Call a function: a submenu request is parked, everything else is carried out. -/
def callFunction (geo : Bool) (function : TagFunction) (text : String) (area : Rect) :
    Callback Unit := do
  match function.deferred with
  | some submenu => park submenu area
  | none => perform geo function text area
  refreshIfRequired

/-- Call the function of an id, as the host does for a popup element or a submitted edit. -/
def callId (geo : Bool) (id : Int32) (text : String) (area : Rect) : Callback Unit :=
  match TagFunction.decode id with
  | .ok function => callFunction geo function text area
  | .error error => note (.idRejected id error)

end Overlay

end RadarOverlay
