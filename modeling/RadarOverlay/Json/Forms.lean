import RadarOverlay.Binary
import RadarOverlay.Controller.Vocabulary
import RadarOverlay.Json.Value

/-!
The JSON form of the public types. A structure is an object of its fields, or a list
of them in order; fields it does not know are skipped. A constructor without fields is
its name, or an object that maps the name to null; a constructor with one field is an
object that maps its name to the field. A viewport carries its kind in the field
"type". An integer is accepted for a floating-point number, but never the other way
round.
-/
namespace RadarOverlay

/-- A type whose values are written as documents and read back from them. -/
class JsonForm (α : Type) where
  toJson : α → Json
  /-- The value of a form, if it is one. -/
  ofJson? : Json → Option α

export JsonForm (toJson ofJson?)

namespace Json

/-- The fields of a structure, by name or by position. A list has to have exactly as many
items. -/
def record? (names : List String) : Json → Option (List Json)
  | .object fields => names.mapM fun name => field? name (.object fields)
  | .list items => if items.length = names.length then some items else none
  | _ => none

/-- The name of a constructor and the form of its field, if there is one. -/
def constructor? : Json → Option (String × Option Json)
  | .text name => some (name, none)
  | .object [(name, field)] => some (name, some field)
  | _ => none

/-- The name in the form of a constructor without fields. -/
def bareName? (form : Json) : Option String := do
  match ← form.constructor? with
  | (name, none) => some name
  | (name, some .null) => some name
  | _ => none

/-- The constructor without fields that has the name in the form. -/
def named? {α : Type} (all : List α) (name : α → String) (form : Json) : Option α := do
  let found ← form.bareName?
  all.find? fun a => name a == found

/-- The integer in a form, if it is from `low` on and below `high`. -/
def integer? (low high : Int) : Json → Option Int
  | .integer n => if low ≤ n ∧ n < high then some n else none
  | _ => none

end Json

instance : JsonForm Bool where
  toJson := .boolean
  ofJson?
    | .boolean value => some value
    | _ => none

instance : JsonForm String where
  toJson := .text
  ofJson?
    | .text value => some value
    | _ => none

instance : JsonForm Int32 where
  toJson n := .integer n.toInt
  ofJson? form := (form.integer? (-0x80000000) 0x80000000).map Int32.ofInt

instance : JsonForm UInt8 where
  toJson n := .integer n.toNat
  ofJson? form := (form.integer? 0 0x100).map fun n => UInt8.ofNat n.toNat

/-- A position in a list: a number of a 64-bit word. -/
instance : JsonForm Nat where
  toJson n := .integer n
  ofJson? form := (form.integer? 0 0x10000000000000000).map Int.toNat

/-- A number that is not finite has no form of its own. -/
instance : JsonForm Float where
  toJson x := if x.isFinite then .real x else .null
  ofJson?
    | .real x => some x
    | .integer n => some (Float.ofInt n)
    | _ => none

instance : JsonForm Float32 where
  toJson x := toJson (widen x)
  ofJson?
    | .real x => some (narrow x)
    | .integer n => some (Float32.ofInt n)
    | _ => none

instance {α β : Type} [JsonForm α] [JsonForm β] : JsonForm (α × β) where
  toJson pair := .list [toJson pair.1, toJson pair.2]
  ofJson?
    | .list [first, second] => do return (← ofJson? first, ← ofJson? second)
    | _ => none

instance : JsonForm Point where
  toJson p := .object [("x", toJson p.x), ("y", toJson p.y)]
  ofJson? form := do
    match ← form.record? ["x", "y"] with
    | [x, y] => return ⟨← ofJson? x, ← ofJson? y⟩
    | _ => none

instance : JsonForm Rect where
  toJson r := .object [("left", toJson r.left), ("top", toJson r.top), ("right", toJson r.right),
    ("bottom", toJson r.bottom)]
  ofJson? form := do
    match ← form.record? ["left", "top", "right", "bottom"] with
    | [left, top, right, bottom] =>
      return ⟨← ofJson? left, ← ofJson? top, ← ofJson? right, ← ofJson? bottom⟩
    | _ => none

instance : JsonForm PointF where
  toJson p := .object [("x", toJson p.x), ("y", toJson p.y)]
  ofJson? form := do
    match ← form.record? ["x", "y"] with
    | [x, y] => return ⟨← ofJson? x, ← ofJson? y⟩
    | _ => none

instance : JsonForm SizeF where
  toJson s := .object [("width", toJson s.width), ("height", toJson s.height)]
  ofJson? form := do
    match ← form.record? ["width", "height"] with
    | [width, height] => return ⟨← ofJson? width, ← ofJson? height⟩
    | _ => none

instance : JsonForm Color where
  toJson c := .object [("r", toJson c.red), ("g", toJson c.green), ("b", toJson c.blue)]
  ofJson? form := do
    match ← form.record? ["r", "g", "b"] with
    | [red, green, blue] => return ⟨← ofJson? red, ← ofJson? green, ← ofJson? blue⟩
    | _ => none

instance : JsonForm GeoPosition where
  toJson g := .object [("latitude", toJson g.latitude), ("longitude", toJson g.longitude)]
  ofJson? form := do
    match ← form.record? ["latitude", "longitude"] with
    | [latitude, longitude] => return ⟨← ofJson? latitude, ← ofJson? longitude⟩
    | _ => none

instance : JsonForm ConnectionState where
  toJson c := .text c.name
  ofJson? := Json.named?
    [.disconnected, .connectedDirect, .connectedProxy, .connectedLocal, .poisoned]
    ConnectionState.name

instance : JsonForm ActivityState where
  toJson a := .text a.name
  ofJson? := Json.named? [.none, .observing, .controlling] ActivityState.name

instance : JsonForm ClickType where
  toJson c := .text c.name
  ofJson? := Json.named? [.primary, .auxiliary] ClickType.name

instance : JsonForm RefreshPhase where
  toJson p := .text p.name
  ofJson? := Json.named? [.backBitmap, .beforeTags, .afterTags, .afterLists] RefreshPhase.name

instance : JsonForm ScreenObject where
  toJson o := .text o.name
  ofJson? := Json.named? [.clickRegion, .menu] ScreenObject.name

instance : JsonForm PopupCheckbox where
  toJson c := .text c.name
  ofJson? := Json.named? [.noCheckbox, .unchecked, .checked] PopupCheckbox.name

instance : JsonForm FunctionKind where
  toJson k := .text k.name
  ofJson? := Json.named? FunctionKind.all FunctionKind.name

instance : JsonForm SubmenuStep where
  toJson s := .text s.name
  ofJson? := Json.named? [.request, .opening] SubmenuStep.name

instance : JsonForm MouseButton where
  toJson
    | .left => .text "Left"
    | .middle => .text "Middle"
    | .right => .text "Right"
    | .other number => .object [("Other", toJson number)]
  ofJson? form := do
    match ← form.constructor? with
    | ("Left", none) | ("Left", some .null) => return .left
    | ("Middle", none) | ("Middle", some .null) => return .middle
    | ("Right", none) | ("Right", some .null) => return .right
    | ("Other", some number) => return .other (← ofJson? number)
    | _ => none

namespace TagFunction

/-- The functions that carry nothing. -/
def bare : List TagFunction :=
  [.none, .openMenu, .openEditAerodrome, .submitEditAerodrome, .toggleControlling]

/-- The function of a kind with the given form of its field. -/
def withField? (kind : String) (field : Json) : Option TagFunction :=
  if kind = FunctionKind.openSelectProfile.name then (ofJson? field).map .openSelectProfile
  else if kind = FunctionKind.submitSelectProfile.name then (ofJson? field).map .submitSelectProfile
  else if kind = FunctionKind.openSelectPreset.name then (ofJson? field).map .openSelectPreset
  else if kind = FunctionKind.submitSelectPreset.name then (ofJson? field).map .submitSelectPreset
  else if kind = FunctionKind.openSelectView.name then (ofJson? field).map .openSelectView
  else if kind = FunctionKind.submitSelectView.name then (ofJson? field).map .submitSelectView
  else Option.none

end TagFunction

instance : JsonForm TagFunction where
  toJson function :=
    let name := function.kind.name
    match function with
    | .openSelectProfile step | .openSelectPreset step | .openSelectView step =>
      .object [(name, toJson step)]
    | .submitSelectProfile index | .submitSelectPreset index | .submitSelectView index =>
      .object [(name, toJson index)]
    | _ => .text name
  ofJson? form := do
    match form.named? TagFunction.bare (·.kind.name) with
    | some function => return function
    | none =>
      match ← form.constructor? with
      | (kind, some field) => TagFunction.withField? kind field
      | _ => none

instance : JsonForm PopupElement where
  toJson e := .object [("label", toJson e.label), ("function", toJson e.function),
    ("checkbox", toJson e.checkbox), ("disabled", toJson e.disabled)]
  ofJson? form := do
    match ← form.record? ["label", "function", "checkbox", "disabled"] with
    | [label, function, checkbox, disabled] =>
      return ⟨← ofJson? label, ← ofJson? function, ← ofJson? checkbox, ← ofJson? disabled⟩
    | _ => none

namespace GeoViewport

def fields (v : GeoViewport) : List (String × Json) :=
  [("origin", toJson v.origin), ("scaling", toJson v.scaling), ("rotation", toJson v.rotation),
    ("size", toJson v.size)]

end GeoViewport

instance : JsonForm GeoViewport where
  toJson v := .object v.fields
  ofJson? form := do
    match ← form.record? ["origin", "scaling", "rotation", "size"] with
    | [origin, scaling, rotation, size] =>
      return ⟨← ofJson? origin, ← ofJson? scaling, ← ofJson? rotation, ← ofJson? size⟩
    | _ => none

namespace PlanarViewport

def fields (v : PlanarViewport) : List (String × Json) :=
  [("origin", toJson v.origin), ("size", toJson v.size)]

end PlanarViewport

instance : JsonForm PlanarViewport where
  toJson v := .object v.fields
  ofJson? form := do
    match ← form.record? ["origin", "size"] with
    | [origin, size] => return ⟨← ofJson? origin, ← ofJson? size⟩
    | _ => none

namespace Viewport

/-- The kind in the form of a viewport, and the form without it: in an object the field
"type", in a list the first item. -/
def splitKind? : Json → Option (String × Json)
  | .object fields => do
    match ← Json.field? "type" (.object fields) with
    | .text kind => return (kind, .object (fields.filter (·.1 != "type")))
    | _ => none
  | .list (.text kind :: items) => some (kind, .list items)
  | _ => none

end Viewport

instance : JsonForm Viewport where
  toJson
    | .geo v => .object (("type", .text "geo") :: v.fields)
    | .planar v => .object (("type", .text "nonGeo") :: v.fields)
  ofJson? form := do
    match ← Viewport.splitKind? form with
    | ("geo", rest) => return .geo (← ofJson? rest)
    | ("nonGeo", rest) => return .planar (← ofJson? rest)
    | _ => none

end RadarOverlay
