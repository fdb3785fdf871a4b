import RadarOverlay.Client

/-!
The values that cross the binary boundary to the host and to the lighting client:
numbers for states and kinds, and a flat viewport.
-/
namespace RadarOverlay.Native

/-- A viewport with the same fields for every surface; scaling and rotation of a planar one
are zero. -/
structure RawViewport where
  /-- 0 for a geographic surface, 1 for a planar one. -/
  kind : UInt32
  origin : Float × Float
  scaling : Float × Float
  rotation : Float
  size : Float × Float

def RawViewport.of (viewport : Viewport) : RawViewport :=
  let size := (Float.ofInt viewport.size.1.toInt, Float.ofInt viewport.size.2.toInt)
  match viewport with
  | .geo v => ⟨0, v.origin, v.scaling, v.rotation, size⟩
  | .planar v => ⟨1, v.origin, (0.0, 0.0), 0.0, size⟩

/-- The connection state of a number; an unknown number reads as disconnected. -/
def connectionOfRaw (number : Int32) : ConnectionState :=
  if number = 1 then .connectedDirect
  else if number = 2 then .connectedProxy
  else if number = 3 then .connectedLocal
  else if number = 4 then .poisoned
  else .disconnected

/-- The activity of a number; an unknown number reads as no activity. -/
def activityOfRaw (number : Int32) : ActivityState :=
  if number = 1 then .observing else if number = 2 then .controlling else .none

/-- The number of an activity on the client's side. -/
def activityToRaw : ActivityState → Int32
  | .none => 0
  | .observing => 1
  | .controlling => 2

/-- The number of a kind of click on the client's side. -/
def clickToRaw : ClickType → Int32
  | .primary => 0
  | .auxiliary => 1

end RadarOverlay.Native
