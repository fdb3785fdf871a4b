import RadarOverlay.Controller.Vocabulary

/-!
Settings across sessions: how they are loaded and kept, and how a surface's target and
anchor are restored once the host has loaded them.
-/
namespace RadarOverlay

/-- Load one coordinate. A value that denotes none is noted and left out. -/
def SettingKey.loadNumber (setting : SettingKey) : Callback (Option Int32) := do
  match ← Overlay.askHost (.loadSetting setting.key) with
  | none => return none
  | some value =>
    match setting.parseNumber value with
    | .ok n => return some n
    | .error error =>
      Overlay.note (.settingRejected error)
      return none

/-- Load all settings. An empty target is no target. -/
def ScreenSettings.load : Callback ScreenSettings := do
  let kept ← Overlay.askHost (.loadSetting SettingKey.aerodrome.key)
  let menuX ← SettingKey.menuX.loadNumber
  let menuY ← SettingKey.menuY.loadNumber
  return ⟨kept.filter (· ≠ ""), menuX, menuY⟩

/-- Keep a value under a key of the surface. -/
def SettingKey.save (setting : SettingKey) (value : String) : Callback Unit :=
  Overlay.tellHost (.saveSetting setting.key setting.description value)

/-- Keep the target for the next session; an empty text stands for none. -/
def saveAerodrome (icao : String) : Callback Unit := SettingKey.aerodrome.save icao

/-- Keep both coordinates of the anchor for the next session. -/
def MenuAnchor.save (anchor : MenuAnchor) : Callback Unit := do
  SettingKey.menuX.save (coordinateText anchor.x)
  SettingKey.menuY.save (coordinateText anchor.y)

namespace Overlay

/-- The host has loaded the surface's content, or dropped it: restore target and anchor. The
connection is asked for the sake of the notice alone, so only while the log keeps details. -/
def contentLoaded (loaded : Bool) (detailed : Bool := true) : Callback Unit := do
  if loaded then
    let settings ← ScreenSettings.load
    if let some icao := settings.aerodrome then
      note (.aerodromeRestored icao)
      tellClient (.setAerodrome (some icao))
    let memory ← readMemory
    let anchor := settings.applyAnchor memory.anchor
    writeMemory { memory with anchor := anchor }
    if detailed then
      let connection ← askClient .connectionState
      note (.settingsApplied anchor connection)

end Overlay

end RadarOverlay
