import RadarOverlay.Proofs.WrittenText
import RadarOverlay.Simulation.Scene

/-!
What hosts and clients are relied on for. Their settings, target and lists are known
by what can be read of them only; these laws say which commands change what is read.
The scene that the overlay is tried on keeps them, and so does a host that keeps octets
of any kind under its keys and reads them leniently.
-/
namespace RadarOverlay

/-- The settings of a host are a store: a key reads as what was saved under it last, and no other
command changes what is read. -/
class LawfulSettings (H : Type) [Host H] : Prop where
  loadSetting_save (h : H) (key description value : String) :
    Host.loadSetting (Host.obey (.saveSetting key description value) h) key = some value
  loadSetting_save_of_ne (h : H) {key other : String} (description value : String)
    (different : other ≠ key) :
    Host.loadSetting (Host.obey (.saveSetting key description value) h) other =
      Host.loadSetting h other
  loadSetting_obey (h : H) (command : HostCommand)
    (other : ∀ key description value, command ≠ .saveSetting key description value) :
    Host.loadSetting (Host.obey command h) = Host.loadSetting h

/-- The target of a client is the one that was set last, and no other command changes it. -/
class LawfulTarget (C : Type) [LightingClient C] : Prop where
  aerodrome_setAerodrome (c : C) (icao : Option String) :
    LightingClient.aerodrome (LightingClient.obey (.setAerodrome icao) c) = icao
  aerodrome_obey (c : C) (command : ClientCommand) (other : ∀ icao, command ≠ .setAerodrome icao) :
    LightingClient.aerodrome (LightingClient.obey command c) = LightingClient.aerodrome c

/-- Reading the redraw flag of a client changes neither its target nor its activity nor what is
selected. -/
class LawfulRedraw (C : Type) [LightingClient C] : Prop where
  aerodrome_takeRedraw (c : C) :
    LightingClient.aerodrome (LightingClient.takeRedraw c).2 = LightingClient.aerodrome c
  activity_takeRedraw (c : C) :
    LightingClient.activity (LightingClient.takeRedraw c).2 = LightingClient.activity c
  profile_takeRedraw (c : C) :
    LightingClient.profile (LightingClient.takeRedraw c).2 = LightingClient.profile c
  view_takeRedraw (c : C) :
    LightingClient.view (LightingClient.takeRedraw c).2 = LightingClient.view c

/-- Whether the redraw flag of a client is raised. -/
def LightingClient.redraw {C : Type} [LightingClient C] (c : C) : Bool :=
  (LightingClient.takeRedraw c).1

/-- The redraw flag of a client is lowered by reading it, and by no command. -/
class LawfulFlag (C : Type) [LightingClient C] : Prop where
  redraw_takeRedraw (c : C) :
    LightingClient.redraw (LightingClient.takeRedraw c).2 = false
  redraw_obey (c : C) (command : ClientCommand) (raised : LightingClient.redraw c = true) :
    LightingClient.redraw (LightingClient.obey command c) = true

namespace Simulation

theorem lookUp_keep_self {α : Type} (store : List (String × α)) (key : String) (value : α) :
    lookUp (keep store key value) key = some value := by
  simp [lookUp, keep]

theorem lookUp_keep_of_ne {α : Type} (store : List (String × α)) {key other : String} (value : α)
    (different : other ≠ key) : lookUp (keep store key value) other = lookUp store other := by
  simp only [lookUp, keep, List.find?_cons, Ne.symm different, decide_false, List.find?_filter]
  congr 2
  funext entry
  by_cases found : entry.1 = other <;> simp [found, different]

instance : LawfulSettings SceneHost where
  loadSetting_save h key _ value := lookUp_keep_self h.settings key value
  loadSetting_save_of_ne h _ _ _ value different := lookUp_keep_of_ne h.settings value different
  loadSetting_obey _ command other := by
    cases command with
    | saveSetting key description value => exact absurd rfl (other key description value)
    | _ => rfl

/-- A host whose store has octets under its keys. -/
structure OctetHost where
  scene : SceneHost
  store : List (String × List UInt8)

instance : Host OctetHost where
  radarArea h := Host.radarArea h.scene
  pixelToPosition h := Host.pixelToPosition h.scene
  positionToPixel h := Host.positionToPixel h.scene
  displayArea h := Host.displayArea h.scene
  isController h := Host.isController h.scene
  loadSetting h key := (lookUp h.store key).map Text.lossy
  obey
    | .saveSetting key _ value, h => { h with store := keep h.store key (Text.octets value) }
    | _, h => h

instance : LawfulSettings OctetHost where
  loadSetting_save h key _ value := by
    have read : (lookUp (keep h.store key (Text.octets value)) key).map Text.lossy =
        some value := by
      rw [lookUp_keep_self, Option.map_some, Text.lossy_octets]
    exact read
  loadSetting_save_of_ne h _ _ _ value different :=
    congrArg (Option.map Text.lossy) (lookUp_keep_of_ne h.store (Text.octets value) different)
  loadSetting_obey _ command other := by
    cases command with
    | saveSetting key description value => exact absurd rfl (other key description value)
    | _ => rfl

instance : LawfulTarget SceneClient where
  aerodrome_setAerodrome _ _ := rfl
  aerodrome_obey _ command other := by
    cases command with
    | setAerodrome icao => exact absurd rfl (other icao)
    | _ => rfl

instance : LawfulRedraw SceneClient := ⟨fun _ => rfl, fun _ => rfl, fun _ => rfl, fun _ => rfl⟩

instance : LawfulFlag SceneClient where
  redraw_takeRedraw _ := rfl
  redraw_obey _ command raised := by cases command <;> first | exact raised | rfl

end Simulation

end RadarOverlay
