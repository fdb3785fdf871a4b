import RadarOverlay.Geometry

/-!
Centers of rectangles. On each axis the center is half the sum of two opposite edges: the sum has
to be a coordinate, and an odd one loses its half towards zero. Above zero that is towards the
top-left, below zero it is away from it. Main statements: `center_is_floor_unless_cut_up` says
which rectangles have a center, and exactly where it is the floor of the midpoint, lies inside and
moves with the rectangle; `center_cut_up_lies_outside` shows that it does not do so everywhere.
-/
namespace RadarOverlay

/-- Half of the sum is no whole number and lies below zero, so that it is cut off upwards. -/
def IsCutUp (sum : Int) : Prop := sum < 0 ∧ ¬ 2 ∣ sum

instance (sum : Int) : Decidable (IsCutUp sum) := inferInstanceAs (Decidable (_ ∧ _))

theorem tdiv_two_of_cut {sum : Int} (cut : IsCutUp sum) : sum.tdiv 2 = sum / 2 + 1 := by
  have unlike : ¬ (0 ≤ sum ∨ 2 ∣ sum) := by
    rintro (nonneg | even)
    · exact Int.not_le.mpr cut.1 nonneg
    · exact cut.2 even
  rw [Int.tdiv_eq_ediv, if_neg unlike]
  rfl

theorem tdiv_two_of_uncut {sum : Int} (uncut : ¬ IsCutUp sum) : sum.tdiv 2 = sum / 2 := by
  have alike : 0 ≤ sum ∨ 2 ∣ sum := by
    by_cases even : 2 ∣ sum
    · exact .inr even
    · exact .inl (Int.not_lt.mp fun below => uncut ⟨below, even⟩)
  rw [Int.tdiv_eq_ediv, if_pos alike, Int.add_zero]

/-- What the middle of two edges is on their axis. It is the floor of the exact middle, unless half
of their sum is cut off upwards; then it is one more, which is still between the edges, unless they
are neighbours. -/
structure Halves (low high middle : Int) : Prop where
  floor_iff : middle = (low + high) / 2 ↔ ¬ IsCutUp (low + high)
  cut : IsCutUp (low + high) → middle = (low + high) / 2 + 1
  inside_iff : (low ≤ middle ∧ middle < high) ↔ ¬ (low < 0 ∧ high = low + 1)

theorem halves_of_tdiv {low high middle : Int} (ordered : low < high)
    (half : middle = (low + high).tdiv 2) : Halves low high middle := by
  by_cases cut : IsCutUp (low + high)
  · rw [tdiv_two_of_cut cut] at half
    have odd : (low + high) % 2 = 1 := by
      have := cut.2
      omega
    refine ⟨⟨fun floor => ?_, fun uncut => absurd cut uncut⟩, fun _ => half, ?_⟩
    · omega
    · have below := cut.1
      omega
  · rw [tdiv_two_of_uncut cut] at half
    refine ⟨⟨fun _ => cut, fun _ => half⟩, fun up => absurd up cut, ?_⟩
    -- The sum of two neighbours is odd, so it is not below zero.
    have apart : ¬ (low < 0 ∧ high = low + 1) := by
      rintro ⟨below, rfl⟩
      exact cut ⟨by omega, by omega⟩
    exact ⟨fun _ => apart, fun _ => by omega⟩

/-- The middle moves with its edges exactly if both sums are cut off alike. -/
theorem tdiv_two_moved_iff (sum distance : Int) :
    (sum + 2 * distance).tdiv 2 = sum.tdiv 2 + distance ↔
      (IsCutUp sum ↔ IsCutUp (sum + 2 * distance)) := by
  by_cases here : IsCutUp sum <;> by_cases there : IsCutUp (sum + 2 * distance)
  · rw [tdiv_two_of_cut here, tdiv_two_of_cut there]
    exact ⟨fun _ => ⟨fun _ => there, fun _ => here⟩, fun _ => by omega⟩
  · rw [tdiv_two_of_cut here, tdiv_two_of_uncut there]
    exact ⟨fun _ => by omega, fun alike => absurd (alike.mp here) there⟩
  · rw [tdiv_two_of_uncut here, tdiv_two_of_cut there]
    exact ⟨fun _ => by omega, fun alike => absurd (alike.mpr there) here⟩
  · rw [tdiv_two_of_uncut here, tdiv_two_of_uncut there]
    exact ⟨fun _ => ⟨fun up => absurd up here, fun up => absurd up there⟩, fun _ => by omega⟩

/-- Half of a coordinate is a coordinate. -/
theorem toInt_half (a : Int32) : (Int32.ofInt (a.toInt.tdiv 2)).toInt = a.toInt.tdiv 2 := by
  obtain ⟨least, most⟩ := Coordinate.inRange_toInt a
  apply Coordinate.toInt_ofInt_of_inRange
  by_cases cut : IsCutUp a.toInt
  · rw [tdiv_two_of_cut cut]
    exact ⟨by omega, by omega⟩
  · rw [tdiv_two_of_uncut cut]
    exact ⟨by omega, by omega⟩

namespace Rect

/-- A rectangle at another place: each edge is as far away from where it was. -/
structure MovedBy (r : Rect) (dx dy : Int) (s : Rect) : Prop where
  left : s.left.toInt = r.left.toInt + dx
  top : s.top.toInt = r.top.toInt + dy
  right : s.right.toInt = r.right.toInt + dx
  bottom : s.bottom.toInt = r.bottom.toInt + dy

/-- A rectangle has a center if both sums of opposite edges are coordinates; it is half of each. -/
theorem center_eq_ok_iff {r : Rect} {c : Point} :
    r.center = .ok c ↔
      Coordinate.InRange (r.left.toInt + r.right.toInt) ∧
      Coordinate.InRange (r.top.toInt + r.bottom.toInt) ∧
      c.x.toInt = (r.left.toInt + r.right.toInt).tdiv 2 ∧
      c.y.toInt = (r.top.toInt + r.bottom.toInt).tdiv 2 := by
  constructor
  · intro found
    obtain ⟨x, across, found⟩ := bind_eq_ok_iff.mp found
    obtain ⟨y, down, found⟩ := bind_eq_ok_iff.mp found
    cases found
    rw [Coordinate.add_eq_ok_iff] at across down
    rw [← across, ← down]
    exact ⟨Coordinate.inRange_toInt x, Coordinate.inRange_toInt y, toInt_half x, toInt_half y⟩
  · rintro ⟨across, down, atX, atY⟩
    have sumX := Coordinate.toInt_ofInt_of_inRange across
    have sumY := Coordinate.toInt_ofInt_of_inRange down
    refine bind_eq_ok_iff.mpr ⟨_, Coordinate.add_eq_ok_iff.mpr sumX,
      bind_eq_ok_iff.mpr ⟨_, Coordinate.add_eq_ok_iff.mpr sumY, ?_⟩⟩
    rw [sumX, sumY, ← atX, ← atY, Int32.ofInt_toInt, Int32.ofInt_toInt]
    rfl

theorem center_eq_error {r : Rect} {cause : Overflow} (stops : r.center = .error cause) :
    cause = .add := by
  simp only [center, Coordinate.add] at stops
  cases across : Coordinate.ofExact .add (r.left.toInt + r.right.toInt) with
  | error other =>
    rw [across] at stops
    cases stops
    exact (Coordinate.ofExact_eq_error_iff.mp across).2.symm
  | ok x =>
    cases down : Coordinate.ofExact .add (r.top.toInt + r.bottom.toInt) with
    | error other =>
      rw [across, down] at stops
      cases stops
      exact (Coordinate.ofExact_eq_error_iff.mp down).2.symm
    | ok y =>
      rw [across, down] at stops
      cases stops

/-- A rectangle that is not empty has a center exactly if both sums of opposite edges are
coordinates. On each axis the center is the floor of the midpoint unless half of the sum is cut off
upwards, it lies inside unless two neighbouring edges are below zero, and it moves with the
rectangle exactly if the sums are cut off alike before and after. -/
theorem center_is_floor_unless_cut_up {r : Rect} (wide : r.left.toInt < r.right.toInt)
    (high : r.top.toInt < r.bottom.toInt) :
    let across := r.left.toInt + r.right.toInt
    let down := r.top.toInt + r.bottom.toInt
    ((∃ c, r.center = .ok c) ↔ Coordinate.InRange across ∧ Coordinate.InRange down) ∧
    (∀ cause, r.center = .error cause → cause = .add) ∧
    ∀ c, r.center = .ok c →
      Halves r.left.toInt r.right.toInt c.x.toInt ∧ Halves r.top.toInt r.bottom.toInt c.y.toInt ∧
      ∀ dx dy s d, r.MovedBy dx dy s → s.center = .ok d →
        (d.x.toInt = c.x.toInt + dx ↔ (IsCutUp across ↔ IsCutUp (across + 2 * dx))) ∧
        (d.y.toInt = c.y.toInt + dy ↔ (IsCutUp down ↔ IsCutUp (down + 2 * dy))) := by
  intro across down
  refine ⟨⟨?_, ?_⟩, fun _ => center_eq_error, ?_⟩
  · rintro ⟨c, found⟩
    obtain ⟨fitsAcross, fitsDown, -⟩ := center_eq_ok_iff.mp found
    exact ⟨fitsAcross, fitsDown⟩
  · rintro ⟨fitsAcross, fitsDown⟩
    have halfX := toInt_half (Int32.ofInt across)
    have halfY := toInt_half (Int32.ofInt down)
    rw [Coordinate.toInt_ofInt_of_inRange fitsAcross] at halfX
    rw [Coordinate.toInt_ofInt_of_inRange fitsDown] at halfY
    exact ⟨⟨_, _⟩, center_eq_ok_iff.mpr ⟨fitsAcross, fitsDown, halfX, halfY⟩⟩
  · intro c found
    obtain ⟨-, -, atX, atY⟩ := center_eq_ok_iff.mp found
    refine ⟨halves_of_tdiv wide atX, halves_of_tdiv high atY, ?_⟩
    intro dx dy s d moved foundThere
    obtain ⟨-, -, thereX, thereY⟩ := center_eq_ok_iff.mp foundThere
    have sumX : s.left.toInt + s.right.toInt = across + 2 * dx := by
      have := moved.left
      have := moved.right
      omega
    have sumY : s.top.toInt + s.bottom.toInt = down + 2 * dy := by
      have := moved.top
      have := moved.bottom
      omega
    rw [thereX, thereY, sumX, sumY, atX, atY]
    exact ⟨tdiv_two_moved_iff across dx, tdiv_two_moved_iff down dy⟩

/-- On a monitor to the left of the first one an even sum is not cut off: the center of the area is
the floor of its midpoint and lies inside. -/
theorem center_is_floor_unless_cut_up_left_monitor :
    let area : Rect := ⟨-1920, 0, 0, 1081⟩
    ∃ c, area.center = .ok c ∧ c.x.toInt = (-1920 + 0) / 2 ∧ c.y.toInt = (0 + 1081) / 2 ∧
      c.x.toInt < 0 ∧ c.y.toInt < 1081 := by
  intro area
  obtain ⟨exists_iff, -, laws⟩ :=
    center_is_floor_unless_cut_up (r := area) (by decide) (by decide)
  obtain ⟨c, found⟩ := exists_iff.mpr (by decide)
  obtain ⟨x, y, -⟩ := laws c found
  exact ⟨c, found, x.floor_iff.mpr (by decide), y.floor_iff.mpr (by decide),
    (x.inside_iff.mpr (by decide)).2, (y.inside_iff.mpr (by decide)).2⟩

/-- A rectangle of one column left of zero has a center that is not the floor of the midpoint and
lies on its right edge, outside; the rectangle one column further on has the same center. Far out a
rectangle has no center at all. -/
theorem center_cut_up_lies_outside :
    let column : Rect := ⟨-1, 0, 0, 2⟩
    column.left.toInt < column.right.toInt ∧ column.top.toInt < column.bottom.toInt ∧
      column.center = .ok ⟨0, 1⟩ ∧
      (0 : Int) ≠ (column.left.toInt + column.right.toInt) / 2 ∧ ¬ 0 < column.right.toInt ∧
      column.MovedBy 1 0 ⟨0, 0, 1, 2⟩ ∧ center ⟨0, 0, 1, 2⟩ = .ok ⟨0, 1⟩ ∧
      center ⟨2147483646, 0, 2147483647, 2⟩ = .error .add := by
  intro column
  exact ⟨by decide, by decide, center_eq_ok_iff.mpr (by decide), by decide, by decide,
    ⟨by decide, by decide, by decide, by decide⟩, center_eq_ok_iff.mpr (by decide), rfl⟩

end Rect

end RadarOverlay
