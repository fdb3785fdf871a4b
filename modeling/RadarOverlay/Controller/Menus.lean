import RadarOverlay.Controller.Vocabulary

/-!
The popup lists of the overlay: the menu of the badge, and the lists of profiles,
presets and views it leads to. The entries of a list are computed from what the client
shows; an entry that may not be used is disabled and inert.
-/
namespace RadarOverlay

namespace Overlay

/-- Open an empty popup list of one column. -/
def openList (area : Rect) (title : String) : Callback Unit :=
  tellHost (.openPopupList area title 1)

/-- Append entries to the popup list opened last. -/
def addElements (elements : List PopupElement) : Callback Unit :=
  Program.each elements fun element => tellHost (.addPopupListElement element)

/-- Control may be toggled by a controller on the network, and by anyone on a local server. -/
def canControl : Callback Bool := do
  if ← askHost .isController then return true
  return (← askClient .connectionState) = .connectedLocal

/-- Whether the lighting may be changed now. -/
def isControlling : Callback Bool := do
  return (← askClient .activity) = .controlling

end Overlay

namespace Menu

def aerodromeEntry : PopupElement := .plain "Active aerodrome" .openEditAerodrome

/-- The menu's control toggle: checked while in control, inert for those who may not take it. -/
def controlEntry (canControl controlling : Bool) : PopupElement where
  label := "Control"
  function := if canControl then .toggleControlling else .none
  checkbox := .checkedIf controlling
  disabled := !canControl

def profilesEntry : PopupElement := .plain "Profiles" (.openSelectProfile .request)

/-- The menu's way to the list of presets, inert unless in control. -/
def presetsEntry (controlling : Bool) : PopupElement where
  label := "Presets"
  function := if controlling then .openSelectPreset .request else .none
  checkbox := .noCheckbox
  disabled := !controlling

def viewsEntry : PopupElement := .plain "Views" (.openSelectView .request)

/-- The list of profiles. Selecting one changes the lighting, so it takes control. -/
def profileEntries (controlling : Bool) (current : Nat) (names : List String) : List PopupElement :=
  names.zipIdx.map fun (name, index) =>
    { label := name
      function := if controlling then .submitSelectProfile index else .none
      checkbox := .checkedIf (current == index)
      disabled := !controlling }

/-- The list of presets. All are enabled: the way to the list is what takes control. -/
def presetEntries (names : List String) : List PopupElement :=
  names.zipIdx.map fun (name, index) => .plain name (.submitSelectPreset index)

/-- The list of views, the current one checked. Selecting a view changes no lighting. -/
def viewEntries (current : Nat) (names : List String) : List PopupElement :=
  names.zipIdx.map fun (name, index) =>
    { label := name
      function := .submitSelectView index
      checkbox := .checkedIf (current == index)
      disabled := false }

end Menu

namespace Overlay

/-- Open the menu of the badge. It offers presets only if there are any, and views only on a
planar surface. -/
def openMenu (geo : Bool) (area : Rect) : Callback Unit := do
  let allowed ← canControl
  let controlling ← isControlling
  openList area "BARS menu"
  addElements [Menu.aerodromeEntry, Menu.controlEntry allowed controlling, Menu.profilesEntry]
  let presets ← askClient .presets
  addElements (if presets = [] then [] else [Menu.presetsEntry controlling])
  addElements (if geo then [] else [Menu.viewsEntry])

def openProfiles (area : Rect) : Callback Unit := do
  let controlling ← isControlling
  let current ← askClient .profile
  openList area "Select profile"
  let names ← askClient .profiles
  addElements (Menu.profileEntries controlling current names)

def openPresets (area : Rect) : Callback Unit := do
  openList area "Select preset"
  let names ← askClient .presets
  addElements (Menu.presetEntries names)

def openViews (area : Rect) : Callback Unit := do
  let current ← askClient .view
  openList area "Select view"
  let names ← askClient .views
  addElements (Menu.viewEntries current names)

end Overlay

end RadarOverlay
