import RadarOverlay.Host
import RadarOverlay.Native.Wire

/-!
The numbers of the wire. Each kind of value has a table of the numbers that stand for it,
and the tables are written out here once, apart from the functions that encode and decode.
Main statement: `wire_numbers` says that all of these follow the tables, whatever number
comes in.
-/
namespace RadarOverlay.Native

/-- The numbers that stand for the values of a kind, each with its value. -/
abbrev Codes (α : Type) := List (Int32 × α)

/-- The number that stands for a value. -/
def Codes.number? {α : Type} [DecidableEq α] (codes : Codes α) (a : α) : Option Int32 :=
  (codes.find? fun code => code.2 = a).map (·.1)

def phaseCodes : Codes RefreshPhase :=
  [(0, .backBitmap), (1, .beforeTags), (2, .afterTags), (3, .afterLists)]

def objectCodes : Codes ScreenObject := [(1, .clickRegion), (2, .menu)]

/-- The buttons with a name. Any other number stands for a button as well, without a name. -/
def buttonCodes : Codes MouseButton := [(1, .left), (2, .middle), (3, .right)]

def checkboxCodes : Codes PopupCheckbox := [(0, .noCheckbox), (1, .unchecked), (2, .checked)]

def connectionCodes : Codes ConnectionState :=
  [(0, .disconnected), (1, .connectedDirect), (2, .connectedProxy), (3, .connectedLocal),
    (4, .poisoned)]

def activityCodes : Codes ActivityState := [(0, .none), (1, .observing), (2, .controlling)]

def clickCodes : Codes ClickType := [(0, .primary), (1, .auxiliary)]

/-- The flat form of a viewport: its kind is 0 for a geographic one and 1 for a planar one, which
has neither scaling nor rotation. -/
def flatViewport : Viewport → RawViewport
  | .geo v =>
    { kind := 0, origin := v.origin, scaling := v.scaling, rotation := v.rotation
      size := (Float.ofInt v.size.1.toInt, Float.ofInt v.size.2.toInt) }
  | .planar v =>
    { kind := 1, origin := v.origin, scaling := (0.0, 0.0), rotation := 0.0
      size := (Float.ofInt v.size.1.toInt, Float.ofInt v.size.2.toInt) }

section

variable {α : Type}

theorem lookup_code (number other : Int32) (a : α) (rest : Codes α) :
    List.lookup number ((other, a) :: rest) =
      if number = other then some a else rest.lookup number := by
  rw [List.lookup_cons]
  by_cases same : number = other
  · rw [if_pos same, beq_iff_eq.mpr same]
  · rw [if_neg same, beq_false_of_ne same]

/-- A table read with a value for all unknown numbers. -/
theorem getD_lookup_code (number other : Int32) (a unknown : α) (rest : Codes α) :
    (List.lookup number ((other, a) :: rest)).getD unknown =
      if number = other then a else (rest.lookup number).getD unknown := by
  rw [lookup_code]
  split <;> rfl

/-- A number that is written for the value of the unknown ones can be left out of a table. -/
theorem getD_lookup_unknown (number other : Int32) (unknown : α) (rest : Codes α)
    (fresh : rest.lookup other = none) :
    (List.lookup number ((other, unknown) :: rest)).getD unknown =
      (rest.lookup number).getD unknown := by
  rw [getD_lookup_code]
  by_cases same : number = other
  · rw [if_pos same, same, fresh, Option.getD_none]
  · rw [if_neg same]

/-- A number is read as the value it was written for, in a table that has each number once. -/
theorem lookup_of_number? [DecidableEq α] {codes : Codes α} (distinct : (codes.map (·.1)).Nodup)
    {a : α} {number : Int32} (written : codes.number? a = some number) :
    codes.lookup number = some a := by
  induction codes with
  | nil => cases written
  | cons code rest ih =>
    obtain ⟨fresh, distinct⟩ := List.nodup_cons.mp distinct
    rw [Codes.number?, List.find?_cons] at written
    rw [lookup_code]
    by_cases here : code.2 = a
    · simp only [here, decide_true, Option.map_some, Option.some.injEq] at written
      rw [if_pos written.symm, here]
    · simp only [here, decide_false] at written
      have later : number ∈ rest.map (·.1) := by
        obtain ⟨other, found, rfl⟩ := Option.map_eq_some_iff.mp written
        exact List.mem_map_of_mem (List.mem_of_find?_eq_some found)
      have other : number ≠ code.1 := by
        rintro rfl
        exact fresh later
      rw [if_neg other, ih distinct written]

end

/-! ## Numbers that come in -/

theorem ofHost?_eq_lookup (number : Int32) :
    RefreshPhase.ofHost? number = phaseCodes.lookup number := by
  simp only [RefreshPhase.ofHost?, phaseCodes, lookup_code, List.lookup_nil]

theorem ofId?_eq_lookup (number : Int32) :
    ScreenObject.ofId? number = objectCodes.lookup number := by
  simp only [ScreenObject.ofId?, objectCodes, lookup_code, List.lookup_nil]

theorem ofHost_eq_lookup (number : Int32) :
    MouseButton.ofHost number = (buttonCodes.lookup number).getD (.other number) := by
  simp only [MouseButton.ofHost, buttonCodes, getD_lookup_code, List.lookup_nil, Option.getD_none]

/-- The number 0 stands for a lost connection, and so does every unknown number. -/
theorem connectionOfRaw_eq_lookup (number : Int32) :
    connectionOfRaw number = (connectionCodes.lookup number).getD .disconnected := by
  rw [connectionCodes, getD_lookup_unknown]
  · simp only [connectionOfRaw, getD_lookup_code, List.lookup_nil, Option.getD_none]
  · rfl

theorem activityOfRaw_eq_lookup (number : Int32) :
    activityOfRaw number = (activityCodes.lookup number).getD .none := by
  rw [activityCodes, getD_lookup_unknown]
  · simp only [activityOfRaw, getD_lookup_code, List.lookup_nil, Option.getD_none]
  · rfl

/-! ## Numbers that go out -/

@[simp] theorem number?_object (object : ScreenObject) :
    objectCodes.number? object = some object.id := by
  cases object <;> rfl

@[simp] theorem number?_checkbox (checkbox : PopupCheckbox) :
    checkboxCodes.number? checkbox = some checkbox.id := by
  cases checkbox <;> rfl

@[simp] theorem number?_activity (activity : ActivityState) :
    activityCodes.number? activity = some (activityToRaw activity) := by
  cases activity <;> rfl

@[simp] theorem number?_click (click : ClickType) :
    clickCodes.number? click = some (clickToRaw click) := by
  cases click <;> rfl

theorem of_eq_flatViewport (viewport : Viewport) :
    RawViewport.of viewport = flatViewport viewport := by
  cases viewport <;> rfl

/-- All that numbers and viewports are on the wire: the numbers that come in are read by the tables,
and those that go out are the ones of the tables. -/
theorem wire_numbers :
    (∀ number, RefreshPhase.ofHost? number = phaseCodes.lookup number) ∧
    (∀ number, ScreenObject.ofId? number = objectCodes.lookup number) ∧
    (∀ number, MouseButton.ofHost number = (buttonCodes.lookup number).getD (.other number)) ∧
    (∀ number, connectionOfRaw number = (connectionCodes.lookup number).getD .disconnected) ∧
    (∀ number, activityOfRaw number = (activityCodes.lookup number).getD .none) ∧
    (∀ object, objectCodes.number? object = some object.id) ∧
    (∀ checkbox, checkboxCodes.number? checkbox = some checkbox.id) ∧
    (∀ activity, activityCodes.number? activity = some (activityToRaw activity)) ∧
    (∀ click, clickCodes.number? click = some (clickToRaw click)) ∧
    ∀ viewport, RawViewport.of viewport = flatViewport viewport :=
  ⟨ofHost?_eq_lookup, ofId?_eq_lookup, ofHost_eq_lookup, connectionOfRaw_eq_lookup,
    activityOfRaw_eq_lookup, number?_object, number?_checkbox, number?_activity, number?_click,
    of_eq_flatViewport⟩

end RadarOverlay.Native
