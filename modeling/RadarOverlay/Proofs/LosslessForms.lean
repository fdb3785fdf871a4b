import RadarOverlay.Json.Forms
import RadarOverlay.Proofs.Widening

/-!
The JSON forms of the public types lose nothing. A value whose numbers are finite is read
back from its form as it was, so different values have different forms; and whatever a
value was read from, fields that are skipped and integers for floating-point numbers
included, the value stays the same from then on. Main statement:
`json_forms_lose_nothing`.
-/
namespace RadarOverlay

open Json

/-! ## Objects and names -/

theorem field?_zip {names : List String} {values : List Json} (distinct : names.Nodup)
    {name : String} {value : Json} (member : (name, value) ∈ names.zip values) :
    field? name (.object (names.zip values)) = some value := by
  rw [field?]
  induction names generalizing values with
  | nil => simp at member
  | cons first rest ih =>
    obtain ⟨fresh, distinct⟩ := List.nodup_cons.mp distinct
    cases values with
    | nil => simp at member
    | cons head tail =>
      rw [List.zip_cons_cons] at member ⊢
      rcases List.mem_cons.mp member with same | later
      · cases same
        simp
      · have other : (first == name) = false :=
          beq_false_of_ne fun same => fresh (same ▸ (List.of_mem_zip later).1)
        rw [List.find?_cons, other]
        exact ih distinct later

/-- Of an object those fields are read that the names ask for. -/
theorem mapM_field? {fields : List (String × Json)} {names : List String} {values : List Json}
    (all : names.length = values.length)
    (read : ∀ pair ∈ names.zip values, field? pair.1 (.object fields) = some pair.2) :
    (names.mapM fun name => field? name (.object fields)) = some values := by
  induction names generalizing values with
  | nil =>
    cases values with
    | nil => rfl
    | cons => simp at all
  | cons first rest ih =>
    cases values with
    | nil => simp at all
    | cons head tail =>
      rw [List.zip_cons_cons, List.forall_mem_cons] at read
      simp [read.1, ih (Nat.succ_inj.mp all) read.2]

/-- The object that a structure is written as is read as its fields. -/
theorem read_object {α : Type} {build : List Json → Option α} (names : List String)
    (values : List Json) (distinct : names.Nodup) (all : names.length = values.length) :
    (record? names (.object (names.zip values)) >>= build) = build values := by
  rw [record?, mapM_field? all fun _ => field?_zip distinct]
  rfl

/-- A constructor without fields is found by its name. -/
theorem named?_name {α : Type} {all : List α} {name : α → String} {a : α}
    (distinct : (all.map name).Nodup) (listed : a ∈ all) :
    named? all name (.text (name a)) = some a := by
  show (all.find? fun other => name other == name a) = some a
  induction all with
  | nil => simp at listed
  | cons first rest ih =>
    obtain ⟨fresh, distinct⟩ := List.nodup_cons.mp distinct
    rcases List.mem_cons.mp listed with rfl | later
    · simp
    · have other : (name first == name a) = false :=
        beq_false_of_ne fun same => fresh (same ▸ List.mem_map_of_mem later)
      rw [List.find?_cons, other]
      exact ih distinct later

/-! ## Numbers and text -/

@[simp] theorem lossless_bool (b : Bool) : ofJson? (toJson b) = some b := rfl

@[simp] theorem lossless_string (s : String) : ofJson? (toJson s) = some s := rfl

theorem integer?_in_range {low high n : Int} (atLeast : low ≤ n) (below : n < high) :
    integer? low high (.integer n) = some n := if_pos ⟨atLeast, below⟩

@[simp] theorem lossless_int32 (n : Int32) : ofJson? (toJson n) = some n := by
  have read : integer? (-0x80000000) 0x80000000 (.integer n.toInt) = some n.toInt :=
    integer?_in_range (Int32.le_toInt n) (Int32.toInt_lt n)
  show (integer? (-0x80000000) 0x80000000 (.integer n.toInt)).map Int32.ofInt = some n
  rw [read, Option.map_some, Int32.ofInt_toInt]

@[simp] theorem lossless_uint8 (n : UInt8) : ofJson? (toJson n) = some n := by
  have read : integer? 0 0x100 (.integer n.toNat) = some (n.toNat : Int) :=
    integer?_in_range (by omega) (by have := n.toNat_lt; omega)
  show (integer? 0 0x100 (.integer n.toNat)).map (fun n => UInt8.ofNat n.toNat) = some n
  rw [read, Option.map_some, Int.toNat_natCast, UInt8.ofNat_toNat]

/-- A position in a list is a number of a 64-bit word. -/
def IsWord (n : Nat) : Prop := n < 0x10000000000000000

@[simp] theorem lossless_nat {n : Nat} (word : IsWord n) : ofJson? (toJson n) = some n := by
  have read : integer? 0 0x10000000000000000 (.integer n) = some (n : Int) :=
    integer?_in_range (by omega) (by unfold IsWord at word; omega)
  show (integer? 0 0x10000000000000000 (.integer n)).map Int.toNat = some n
  rw [read, Option.map_some, Int.toNat_natCast]

theorem isWord_of_form {form : Json} {n : Nat} (accepted : ofJson? form = some n) : IsWord n := by
  obtain ⟨exact, read, rfl⟩ := Option.map_eq_some_iff.mp accepted
  unfold integer? at read
  split at read
  · split at read
    · cases read
      unfold IsWord
      omega
    · cases read
  · cases read

@[simp] theorem lossless_float {x : Float} (finite : x.isFinite = true) :
    ofJson? (toJson x) = some x := by
  show ofJson? (if x.isFinite then Json.real x else .null) = some x
  rw [if_pos finite]
  rfl

@[simp] theorem lossless_float32 {x : Float32} (finite : x.isFinite = true) :
    ofJson? (toJson x) = some x := by
  obtain ⟨wide, same⟩ := Binary.narrow_widen finite
  show ofJson? (if (widen x).isFinite then Json.real (widen x) else .null) = some x
  rw [if_pos wide]
  exact congrArg some same

@[simp] theorem lossless_pair {α β : Type} [JsonForm α] [JsonForm β] {pair : α × β}
    (first : ofJson? (toJson pair.1) = some pair.1)
    (second : ofJson? (toJson pair.2) = some pair.2) : ofJson? (toJson pair) = some pair := by
  show (do return (← ofJson? (toJson pair.1), ← ofJson? (toJson pair.2))) = some pair
  rw [first, second]
  rfl

/-! ## Names -/

@[simp] theorem lossless_connection (c : ConnectionState) : ofJson? (toJson c) = some c :=
  named?_name (by decide) (by cases c <;> decide)

@[simp] theorem lossless_activity (a : ActivityState) : ofJson? (toJson a) = some a :=
  named?_name (by decide) (by cases a <;> decide)

@[simp] theorem lossless_click (c : ClickType) : ofJson? (toJson c) = some c :=
  named?_name (by decide) (by cases c <;> decide)

@[simp] theorem lossless_phase (p : RefreshPhase) : ofJson? (toJson p) = some p :=
  named?_name (by decide) (by cases p <;> decide)

@[simp] theorem lossless_object (o : ScreenObject) : ofJson? (toJson o) = some o :=
  named?_name (by decide) (by cases o <;> decide)

@[simp] theorem lossless_checkbox (c : PopupCheckbox) : ofJson? (toJson c) = some c :=
  named?_name (by decide) (by cases c <;> decide)

@[simp] theorem lossless_kind (k : FunctionKind) : ofJson? (toJson k) = some k :=
  named?_name (by decide) (by cases k <;> decide)

@[simp] theorem lossless_step (s : SubmenuStep) : ofJson? (toJson s) = some s :=
  named?_name (by decide) (by cases s <;> decide)

/-! ## Structures -/

@[simp] theorem lossless_point (p : Point) : ofJson? (toJson p) = some p :=
  (read_object ["x", "y"] [toJson p.x, toJson p.y] (by decide) rfl).trans
    (by simp)

@[simp] theorem lossless_rect (r : Rect) : ofJson? (toJson r) = some r :=
  (read_object ["left", "top", "right", "bottom"]
    [toJson r.left, toJson r.top, toJson r.right, toJson r.bottom] (by decide)
    rfl).trans (by simp)

@[simp] theorem lossless_color (c : Color) : ofJson? (toJson c) = some c :=
  (read_object ["r", "g", "b"]
    [toJson c.red, toJson c.green, toJson c.blue] (by decide) rfl).trans (by simp)

/-- The numbers of a sub-pixel position are finite. -/
def PointF.IsFinite (p : PointF) : Prop := p.x.isFinite = true ∧ p.y.isFinite = true

@[simp] theorem lossless_pointF {p : PointF} (finite : p.IsFinite) : ofJson? (toJson p) = some p :=
  (read_object ["x", "y"] [toJson p.x, toJson p.y] (by decide) rfl).trans
    (by simp [finite.1, finite.2])

def SizeF.IsFinite (s : SizeF) : Prop := s.width.isFinite = true ∧ s.height.isFinite = true

@[simp] theorem lossless_sizeF {s : SizeF} (finite : s.IsFinite) : ofJson? (toJson s) = some s :=
  (read_object ["width", "height"] [toJson s.width, toJson s.height]
    (by decide) rfl).trans (by simp [finite.1, finite.2])

def GeoPosition.IsFinite (g : GeoPosition) : Prop :=
  g.latitude.isFinite = true ∧ g.longitude.isFinite = true

@[simp] theorem lossless_position {g : GeoPosition} (finite : g.IsFinite) :
    ofJson? (toJson g) = some g :=
  (read_object ["latitude", "longitude"]
    [toJson g.latitude, toJson g.longitude] (by decide) rfl).trans
    (by simp [finite.1, finite.2])

/-! ## Viewports -/

structure GeoViewport.IsFinite (v : GeoViewport) : Prop where
  origin : v.origin.1.isFinite = true ∧ v.origin.2.isFinite = true
  scaling : v.scaling.1.isFinite = true ∧ v.scaling.2.isFinite = true
  rotation : v.rotation.isFinite = true

@[simp] theorem lossless_geoViewport {v : GeoViewport} (finite : v.IsFinite) :
    ofJson? (toJson v) = some v :=
  (read_object ["origin", "scaling", "rotation", "size"]
    [toJson v.origin, toJson v.scaling, toJson v.rotation, toJson v.size] (by decide)
    rfl).trans (by simp [finite.origin, finite.scaling, finite.rotation])

def PlanarViewport.IsFinite (v : PlanarViewport) : Prop :=
  v.origin.1.isFinite = true ∧ v.origin.2.isFinite = true

@[simp] theorem lossless_planarViewport {v : PlanarViewport} (finite : v.IsFinite) :
    ofJson? (toJson v) = some v :=
  (read_object ["origin", "size"] [toJson v.origin, toJson v.size]
    (by decide) rfl).trans (by simp [finite.1, finite.2])

def Viewport.IsFinite : Viewport → Prop
  | .geo v => v.IsFinite
  | .planar v => v.IsFinite

/-- The kind is taken out of the object that it shares with the fields of the viewport. -/
theorem splitKind?_shared {kind : String} {fields : List (String × Json)}
    (fresh : ∀ field ∈ fields, field.1 ≠ "type") :
    Viewport.splitKind? (.object (("type", .text kind) :: fields)) =
      some (kind, .object fields) := by
  have kept : (fields.filter fun field => field.1 != "type") = fields :=
    List.filter_eq_self.mpr fun field member => bne_iff_ne.mpr (fresh field member)
  simp [Viewport.splitKind?, field?, kept]

theorem lossless_viewport {v : Viewport} (finite : v.IsFinite) : ofJson? (toJson v) = some v := by
  cases v with
  | geo v =>
    have split : Viewport.splitKind? (toJson (Viewport.geo v)) = some ("geo", toJson v) :=
      splitKind?_shared (by simp [GeoViewport.fields])
    show (Viewport.splitKind? (toJson (Viewport.geo v)) >>= _) = _
    rw [split]
    show (do return Viewport.geo (← ofJson? (toJson v))) = _
    simp [lossless_geoViewport finite]
  | planar v =>
    have split : Viewport.splitKind? (toJson (Viewport.planar v)) = some ("nonGeo", toJson v) :=
      splitKind?_shared (by simp [PlanarViewport.fields])
    show (Viewport.splitKind? (toJson (Viewport.planar v)) >>= _) = _
    rw [split]
    show (do return Viewport.planar (← ofJson? (toJson v))) = _
    simp [lossless_planarViewport finite]

/-! ## Constructors with a field -/

theorem lossless_button (b : MouseButton) : ofJson? (toJson b) = some b := by
  cases b with
  | other number =>
    show (do return MouseButton.other (← ofJson? (toJson number))) = _
    simp
  | _ => rfl

/-- The position that a selection carries is a number of a word. -/
def TagFunction.IsWord : TagFunction → Prop
  | .submitSelectProfile index | .submitSelectPreset index | .submitSelectView index =>
    RadarOverlay.IsWord index
  | _ => True

namespace TagFunction

/-- A function with a field is found by its kind, unless the field is null. -/
theorem read_withField {kind : String} {field : Json} (present : field ≠ .null) :
    ofJson? (.object [(kind, field)]) = withField? kind field := by
  have unnamed : bareName? (.object [(kind, field)]) = Option.none := by
    cases field <;> first | rfl | exact absurd rfl present
  simp only [ofJson?, named?, unnamed]
  rfl

theorem read_step (kind : String) (step : SubmenuStep) :
    ofJson? (.object [(kind, toJson step)]) = withField? kind (toJson step) :=
  read_withField (by cases step <;> exact nofun)

theorem read_index (kind : String) (index : Nat) :
    ofJson? (.object [(kind, toJson index)]) = withField? kind (toJson index) :=
  @read_withField kind (.integer index) nofun

@[simp] theorem lossless {f : TagFunction} (word : f.IsWord) : ofJson? (toJson f) = some f := by
  cases f with
  | openSelectProfile step | openSelectPreset step | openSelectView step =>
    refine (read_step _ step).trans ?_
    simp [withField?, FunctionKind.name, kind]
  | submitSelectProfile index | submitSelectPreset index | submitSelectView index =>
    refine (read_index _ index).trans ?_
    simp [withField?, FunctionKind.name, kind, lossless_nat word]
  | _ => rfl

/-- The field of a function is read with a position that is a number of a word. -/
theorem isWord_of_withField {kind : String} {field : Json} {f : TagFunction}
    (carried : withField? kind field = some f) : f.IsWord := by
  have stepped {make : SubmenuStep → TagFunction} (read : (ofJson? field).map make = some f)
      (plain : ∀ step, (make step).IsWord) : f.IsWord := by
    obtain ⟨step, -, rfl⟩ := Option.map_eq_some_iff.mp read
    exact plain step
  have indexed {make : Nat → TagFunction} (read : (ofJson? field).map make = some f)
      (carries : ∀ index, RadarOverlay.IsWord index → (make index).IsWord) : f.IsWord := by
    obtain ⟨index, accepted, rfl⟩ := Option.map_eq_some_iff.mp read
    exact carries index (isWord_of_form accepted)
  unfold withField? at carried
  split at carried
  · exact stepped carried fun _ => trivial
  split at carried
  · exact indexed carried fun _ => id
  split at carried
  · exact stepped carried fun _ => trivial
  split at carried
  · exact indexed carried fun _ => id
  split at carried
  · exact stepped carried fun _ => trivial
  split at carried
  · exact indexed carried fun _ => id
  · cases carried

/-- A form is accepted only with a position that is a number of a word. -/
theorem isWord_of_accepted {form : Json} {f : TagFunction} (accepted : ofJson? form = some f) :
    f.IsWord := by
  simp only [ofJson?] at accepted
  cases named : form.named? bare (·.kind.name) with
  | some function =>
    rw [named] at accepted
    cases accepted
    obtain ⟨name, -, listed⟩ := Option.bind_eq_some_iff.mp named
    have plain : ∀ g ∈ bare, g.IsWord := by simp [bare, IsWord]
    exact plain f (List.mem_of_find?_eq_some listed)
  | none =>
    rw [named] at accepted
    obtain ⟨⟨kind, field⟩, -, read⟩ := Option.bind_eq_some_iff.mp accepted
    cases field with
    | none => cases read
    | some field => exact isWord_of_withField read

end TagFunction

@[simp] theorem lossless_element {e : PopupElement} (word : e.function.IsWord) :
    ofJson? (toJson e) = some e :=
  (read_object ["label", "function", "checkbox", "disabled"]
    [toJson e.label, toJson e.function, toJson e.checkbox, toJson e.disabled]
    (by decide) rfl).trans (by simp [TagFunction.lossless word])

theorem isWord_of_element {form : Json} {e : PopupElement} (accepted : ofJson? form = some e) :
    e.function.IsWord := by
  obtain ⟨values, -, read⟩ := Option.bind_eq_some_iff.mp accepted
  split at read
  · simp only [Option.bind_eq_bind, Option.bind_eq_some_iff] at read
    obtain ⟨_, -, f, function, _, -, _, -, made⟩ := read
    cases made
    exact TagFunction.isWord_of_accepted function
  · cases read

/-! ## All public types -/

/-- The public types that have a JSON form. -/
inductive PublicType where
  | point | rect | pointF | sizeF | color | position
  | phase | object | button | checkbox | element
  | connection | activity | click
  | kind | step | function
  | geoViewport | planarViewport | viewport
  deriving DecidableEq, Repr

namespace PublicType

abbrev Value : PublicType → Type
  | point => Point
  | rect => Rect
  | pointF => PointF
  | sizeF => SizeF
  | color => Color
  | position => GeoPosition
  | phase => RefreshPhase
  | object => ScreenObject
  | button => MouseButton
  | checkbox => PopupCheckbox
  | element => PopupElement
  | connection => ConnectionState
  | activity => ActivityState
  | click => ClickType
  | kind => FunctionKind
  | step => SubmenuStep
  | function => TagFunction
  | geoViewport => GeoViewport
  | planarViewport => PlanarViewport
  | viewport => Viewport

instance : (t : PublicType) → JsonForm t.Value
  | point | rect | pointF | sizeF | color | position | phase | object | button | checkbox
  | element | connection | activity | click | kind | step | function | geoViewport
  | planarViewport | viewport => inferInstance

/-- The floating-point numbers in a value are finite. -/
def IsFinite : (t : PublicType) → t.Value → Prop
  | pointF, p => PointF.IsFinite p
  | sizeF, s => SizeF.IsFinite s
  | position, g => GeoPosition.IsFinite g
  | geoViewport, v => GeoViewport.IsFinite v
  | planarViewport, v => PlanarViewport.IsFinite v
  | viewport, v => Viewport.IsFinite v
  | _, _ => True

/-- The positions in a value are numbers of a 64-bit word. -/
def IsWord : (t : PublicType) → t.Value → Prop
  | function, f => TagFunction.IsWord f
  | element, e => TagFunction.IsWord (PopupElement.function e)
  | _, _ => True

theorem lossless : (t : PublicType) → {v : t.Value} → t.IsFinite v → t.IsWord v →
    ofJson? (toJson v) = some v
  | point, _, _, _ => lossless_point _
  | rect, _, _, _ => lossless_rect _
  | pointF, _, finite, _ => lossless_pointF finite
  | sizeF, _, finite, _ => lossless_sizeF finite
  | color, _, _, _ => lossless_color _
  | position, _, finite, _ => lossless_position finite
  | phase, _, _, _ => lossless_phase _
  | object, _, _, _ => lossless_object _
  | button, _, _, _ => lossless_button _
  | checkbox, _, _, _ => lossless_checkbox _
  | element, _, _, word => lossless_element word
  | connection, _, _, _ => lossless_connection _
  | activity, _, _, _ => lossless_activity _
  | click, _, _, _ => lossless_click _
  | kind, _, _, _ => lossless_kind _
  | step, _, _, _ => lossless_step _
  | function, _, _, word => TagFunction.lossless word
  | geoViewport, _, finite, _ => lossless_geoViewport finite
  | planarViewport, _, finite, _ => lossless_planarViewport finite
  | viewport, _, finite, _ => lossless_viewport finite

theorem isWord_of_accepted (t : PublicType) {form : Json} {v : t.Value}
    (accepted : ofJson? form = some v) : t.IsWord v := by
  cases t with
  | function => exact TagFunction.isWord_of_accepted accepted
  | element => exact isWord_of_element accepted
  | _ => exact trivial

end PublicType

/-- A value of a public type whose numbers are finite is read back from its form, so different
values have different forms; and what was read from any form at all is read from its own form
again. -/
theorem json_forms_lose_nothing (t : PublicType) :
    (∀ v : t.Value, t.IsFinite v → t.IsWord v → ofJson? (toJson v) = some v) ∧
    (∀ v w : t.Value, t.IsFinite v → t.IsWord v → t.IsFinite w → t.IsWord w →
      v ≠ w → toJson v ≠ toJson w) ∧
    ∀ (form : Json) (v : t.Value), ofJson? form = some v → t.IsFinite v →
      ofJson? (toJson v) = some v := by
  refine ⟨fun v => t.lossless, ?_, ?_⟩
  · intro v w finite word finite' word' different same
    have read := t.lossless finite word
    rw [same, t.lossless finite' word'] at read
    exact different (Option.some.inj read).symm
  · intro form v accepted finite
    exact t.lossless finite (t.isWord_of_accepted accepted)

/-- A viewport with an unknown field and with integers for some of its numbers is read, and the
same again from its form; the zeros of either sign have forms of their own, and the largest
position has one. -/
theorem json_forms_lose_nothing_viewport :
    let form : Json := .object [("note", .null), ("type", .text "geo"),
      ("origin", .list [.integer 51, .real 0.5]), ("scaling", .list [.integer 2, .integer 3]),
      ("rotation", .integer 0), ("size", .list [.integer 800, .integer 600])]
    let v : Viewport := .geo ⟨(Float.ofInt 51, 0.5), (Float.ofInt 2, Float.ofInt 3), Float.ofInt 0,
      (800, 600)⟩
    ofJson? form = some v ∧ v.IsFinite ∧ ofJson? (toJson v) = some v ∧
      toJson (PointF.mk 0 0) ≠ toJson (PointF.mk 0 (-0)) ∧
      ofJson? (toJson (TagFunction.submitSelectView 0xffffffffffffffff)) =
        some (TagFunction.submitSelectView 0xffffffffffffffff) := by
  intro form v
  have accepted : ofJson? form = some v := rfl
  have finite : v.IsFinite := ⟨by decide +kernel, by decide +kernel, by decide +kernel⟩
  have zero : (0 : Float32).isFinite = true := by decide +kernel
  have negativeZero : (-0 : Float32).isFinite = true := by decide +kernel
  have different : PointF.mk 0 0 ≠ PointF.mk 0 (-0) :=
    fun same => absurd (congrArg PointF.y same) (by decide +kernel)
  have word : IsWord 0xffffffffffffffff := by unfold IsWord; decide
  refine ⟨accepted, finite, (json_forms_lose_nothing .viewport).2.2 form v accepted finite, ?_, ?_⟩
  · exact (json_forms_lose_nothing .pointF).2.1 _ _ ⟨zero, zero⟩ trivial ⟨zero, negativeZero⟩
      trivial different
  · exact (json_forms_lose_nothing .function).1 (.submitSelectView _) trivial word

end RadarOverlay
