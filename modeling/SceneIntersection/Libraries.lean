import SceneIntersection.Messages
import Mathlib.Data.Rat.Sqrt

/-!
# The libraries the module calls

The module calls the C math library, Boost.Geometry, the lanelet2 map with its extension, and
helpers of the planner that are not under `src/`. Each is a structure of the functions the module
calls, with the laws the proofs rely on as fields, so that no instance breaks them. Boost.Geometry's
`intersects` of a polygon and a linestring is defined from the segment test by its point-set
meaning: a linestring is the union of its segments, and a linestring of one point is that point.

A computation that reads through an end iterator, or calls `front()` or `back()` on an empty
container, has undefined behaviour; the model returns `Fault.endIterator` there instead of a value.
-/

namespace BehaviorVelocityPlanner

/-- Why a computation of the module does not return a value. -/
inductive Fault
  | endIterator
  | outOfRange
deriving DecidableEq, Repr

/-- Results compare by their constructor and contents, so that a run of the model can be checked
by `decide`. -/
instance instDecidableEqExcept {ε α : Type} [DecidableEq ε] [DecidableEq α] :
    DecidableEq (Except ε α)
  | .error a, .error b => decidable_of_iff (a = b) (by simp)
  | .ok a, .ok b => decidable_of_iff (a = b) (by simp)
  | .error _, .ok _ => isFalse (by simp)
  | .ok _, .error _ => isFalse (by simp)

theorem exists_of_map_eq_ok {α β : Type} {f : α → β} {x : Except Fault α} {b : β}
    (h : x.map f = .ok b) : ∃ a, x = .ok a ∧ f a = b := by
  cases x with
  | error e => cases h
  | ok a => exact ⟨a, rfl, Except.ok.inj h⟩

theorem bind_eq_ok {α β : Type} {x : Except Fault α} {f : α → Except Fault β} {b : β}
    (h : x >>= f = .ok b) : ∃ a, x = .ok a ∧ f a = .ok b := by
  cases x with
  | error e => cases h
  | ok a => exact ⟨a, rfl, h⟩

/-- The C math functions on doubles the module calls. -/
structure CMath where
  sqrt : ℚ → ℚ
  sqrt_nonneg : ∀ x, 0 ≤ x → 0 ≤ sqrt x
  sqrt_pos : ∀ x, 0 < x → 0 < sqrt x

theorem rat_sqrt_pos {x : ℚ} (hx : 0 < x) : 0 < Rat.sqrt x := by
  have hn : 0 < x.num := Rat.num_pos.mpr hx
  have h1 : (0 : ℚ) < (Int.sqrt x.num : ℚ) := by
    rw [Int.sqrt]; exact_mod_cast Nat.sqrt_pos.mpr (by omega)
  have h2 : (0 : ℚ) < (Nat.sqrt x.den : ℚ) := by exact_mod_cast Nat.sqrt_pos.mpr x.den_pos
  rw [Rat.sqrt, Rat.mkRat_eq_div]
  exact div_pos h1 h2

/-- Mathlib's `Rat.sqrt` as the square root: exact on the squares of rationals. -/
def CMath.ratSqrt : CMath := ⟨Rat.sqrt, fun x _ => Rat.sqrt_nonneg x, fun _ hx => rat_sqrt_pos hx⟩

/-- `std::hypot`. -/
def CMath.hypot (cm : CMath) (x y : ℚ) : ℚ := cm.sqrt (x ^ 2 + y ^ 2)

theorem CMath.hypot_nonneg (cm : CMath) (x y : ℚ) : 0 ≤ cm.hypot x y :=
  cm.sqrt_nonneg _ (by positivity)

/-- `Point2d`, Boost.Geometry's `model::d2::point_xy<double>`. -/
structure Point2d where
  x : ℚ
  y : ℚ
deriving DecidableEq, Repr

/-- `Polygon2d`, by its outer ring. -/
structure Polygon2d where
  outer : List Point2d
deriving DecidableEq, Repr

/-- `to_bg2d` of a point. -/
def Point.toBg2d (p : Point) : Point2d := ⟨p.x, p.y⟩

/-- The Boost.Geometry algorithms and the footprint helpers the module calls. -/
structure Geometry where
  /-- `bg::within(point, polygon)`. -/
  within : Point2d → Polygon2d → Bool
  /-- `bg::distance(point, polygon)`. -/
  distance : Point2d → Polygon2d → ℚ
  /-- `bg::intersects(polygon, LineString2d{a, b})`: the closed segment from `a` to `b` meets the
  polygon (for `a = b`, the point `a` lies in it). -/
  segmentIntersects : Polygon2d → Point2d → Point2d → Bool
  /-- A segment is the same point set read in either direction. -/
  segmentIntersects_comm : ∀ P a b, segmentIntersects P a b = segmentIntersects P b a
  /-- `bg::intersects(polygon, polygon)`. -/
  intersects : Polygon2d → Polygon2d → Bool
  /-- `obj2polygon(pose, dimensions)`: the footprint of a box of the given size at the pose. -/
  obj2polygon : Pose → Vector3 → Polygon2d
  /-- `toBoostPoly(footprint)` of a polygon shape's points. -/
  toBoostPoly : List Point → Polygon2d

/-- Some segment of the linestring meets the polygon. -/
def Geometry.segmentsIntersect (g : Geometry) (P : Polygon2d) : List Point2d → Bool
  | a :: b :: rest => g.segmentIntersects P a b || g.segmentsIntersect P (b :: rest)
  | _ => false

theorem Geometry.segmentsIntersect_iff (g : Geometry) (P : Polygon2d) {ps : List Point2d} :
    g.segmentsIntersect P ps = true ↔
      ∃ (i : Nat) (h : i + 1 < ps.length), g.segmentIntersects P ps[i] ps[i + 1] = true := by
  induction ps with
  | nil => simp [segmentsIntersect]
  | cons a rest ih =>
    cases rest with
    | nil => simp [segmentsIntersect]
    | cons b rest =>
      simp only [segmentsIntersect, Bool.or_eq_true, ih]
      constructor
      · rintro (h | ⟨i, hi, h⟩)
        · exact ⟨0, by simp, h⟩
        · exact ⟨i + 1, by simpa using hi, h⟩
      · rintro ⟨_ | i, hi, h⟩
        · exact .inl h
        · exact .inr ⟨i, by simpa using hi, h⟩

/-- `bg::intersects(polygon, linestring)`: a linestring is the union of its segments, and a
linestring of one point is that point. -/
def Geometry.lineStringIntersects (g : Geometry) (P : Polygon2d) : List Point2d → Bool
  | [a] => g.segmentIntersects P a a
  | l => g.segmentsIntersect P l

theorem Geometry.lineStringIntersects_of_two_le (g : Geometry) (P : Polygon2d) {ps : List Point2d}
    (h : 2 ≤ ps.length) : g.lineStringIntersects P ps = g.segmentsIntersect P ps :=
  match ps, h with
  | _ :: _ :: _, _ => rfl

/-- The lanelet map of the planning cycle through the queries the module makes of it. A lanelet is
its id; `laneletLayer.get` is the identity on ids. -/
structure LaneletMap where
  /-- `lanelet::utils::getArcCoordinates(lanelets, pose).length`. -/
  arcLength : List LaneId → Pose → ℚ
  /-- `lanelet::utils::getLaneletLength3d(lanelet)`. -/
  laneletLength3d : LaneId → ℚ
  /-- The part of the lanelets' polygon between two arc lengths `s < e`. -/
  subPolygon : List LaneId → ℚ → ℚ → List Point2d
  subPolygon_ne_nil : ∀ ls s e, s < e → subPolygon ls s e ≠ []
  /-- `lanelet::utils::isInLanelet(pose, lanelet, radius)`. -/
  isInLanelet : Pose → LaneId → ℚ → Bool
  /-- `lanelet::utils::getLaneletAngle(lanelet, point)`. -/
  laneletAngle : LaneId → Point → ℚ
  /-- `lanelet.centerline2d().front()`. -/
  centerlineFront : LaneId → Point2d

/-- Modelled from the spec: `lanelet::utils::getPolygonFromArcLength` (lanelet2_extension, not
under `src/`) returns "the sub-polygon between" two arc lengths and "fails soft (returns an empty
polygon) if the requested span is degenerate". -/
def LaneletMap.getPolygonFromArcLength (map : LaneletMap) (lanelets : List LaneId) (s e : ℚ) :
    List Point2d :=
  if s < e then map.subPolygon lanelets s e else []

theorem LaneletMap.getPolygonFromArcLength_eq_nil (map : LaneletMap) (lanelets : List LaneId)
    (s e : ℚ) : map.getPolygonFromArcLength lanelets s e = [] ↔ e ≤ s := by
  unfold getPolygonFromArcLength
  split <;> simp_all [map.subPolygon_ne_nil]

/-- `PlannerData`: the snapshot of the planning cycle, as far as the module reads it;
`currentVelocity` is `current_velocity->twist.linear.x`, and `maxLongitudinalOffsetM` and
`vehicleLengthM` are fields of `vehicle_info_`. -/
structure PlannerData where
  currentPose : Pose
  currentVelocity : ℚ
  dynamicObjects : List DynamicObject
  laneletMap : LaneletMap
  maxLongitudinalOffsetM : ℚ
  vehicleLengthM : ℚ
  externalIntersectionStatusInput : Option IntersectionStatus

/-- Helpers of the planner that are not under `src/`, taken as given. -/
structure Util where
  /-- `util::calcArcLengthFromPath(path, src, dst)`. -/
  calcArcLengthFromPath : PathWithLaneId → Nat → Nat → ℚ
  /-- `autoware_utils::normalizeRadian`. -/
  normalizeRadian : ℚ → ℚ

/-- Modelled from the spec: `planning_utils::calcDist2d` (not under `src/`), the planar length of
the segment between two path points. -/
def calcDist2d (cm : CMath) (a b : PathPointWithLaneId) : ℚ :=
  cm.hypot (a.pose.position.x - b.pose.position.x) (a.pose.position.y - b.pose.position.y)

theorem calcDist2d_nonneg (cm : CMath) (a b : PathPointWithLaneId) : 0 ≤ calcDist2d cm a b :=
  cm.hypot_nonneg _ _

/-- Modelled from the spec: `util::hasLaneId` (not under `src/`), whether the point is tagged with
the lane id. -/
def hasLaneId (p : PathPointWithLaneId) (id : LaneId) : Bool := p.laneIds.contains id

end BehaviorVelocityPlanner
