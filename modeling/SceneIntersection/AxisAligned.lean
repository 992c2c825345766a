import SceneIntersection.Libraries
import Mathlib.Tactic.Ring

/-!
# An axis-aligned world

Lawful instances of the library interfaces on which the module can be run. Boost.Geometry reads
every polygon by its bounding box: a point is within a polygon when it is inside the box, a
distance is the Euclidean distance to the box, and a segment meets a box when their projections on
both axes overlap and the box has corners on both sides of the segment's line (a separating-axis
test, exact for segments against boxes). A footprint is the box of the object's dimensions around
its position. The lanelet map is a grid of rectangular lanelets driven east or north, with arc
lengths measured from the entry edge of the first lanelet of a sequence.
-/

namespace BehaviorVelocityPlanner

/-- A closed box `[xMin, xMax] × [yMin, yMax]`. -/
structure Box where
  xMin : ℚ
  xMax : ℚ
  yMin : ℚ
  yMax : ℚ
deriving DecidableEq, Repr

namespace Box

/-- The four corners, counter-clockwise from the south-west one. -/
def corners (B : Box) : List Point2d :=
  [⟨B.xMin, B.yMin⟩, ⟨B.xMax, B.yMin⟩, ⟨B.xMax, B.yMax⟩, ⟨B.xMin, B.yMax⟩]

/-- The box as a polygon, by its ring of corners. -/
def toPolygon (B : Box) : Polygon2d := ⟨B.corners⟩

/-- The smallest box that holds the box and the point. -/
def extend (B : Box) (q : Point2d) : Box :=
  ⟨min B.xMin q.x, max B.xMax q.x, min B.yMin q.y, max B.yMax q.y⟩

/-- The point is strictly inside the box. -/
def contains (B : Box) (p : Point2d) : Bool :=
  decide (B.xMin < p.x) && decide (p.x < B.xMax) && decide (B.yMin < p.y) && decide (p.y < B.yMax)

/-- The Euclidean distance from the point to the box, as `Rat.sqrt` of its square: exact when it
is rational, as when the point is level with the box along an axis. -/
def distance (B : Box) (p : Point2d) : ℚ :=
  Rat.sqrt (max 0 (max (B.xMin - p.x) (p.x - B.xMax)) ^ 2 +
    max 0 (max (B.yMin - p.y) (p.y - B.yMax)) ^ 2)

/-- Two closed boxes overlap. -/
def overlaps (B C : Box) : Bool :=
  decide (B.xMin ≤ C.xMax) && decide (C.xMin ≤ B.xMax) && decide (B.yMin ≤ C.yMax) &&
    decide (C.yMin ≤ B.yMax)

end Box

/-- The bounding box of a polygon's ring, `none` for an empty ring. -/
def Polygon2d.bbox : Polygon2d → Option Box
  | ⟨[]⟩ => none
  | ⟨p :: ps⟩ => some (ps.foldl Box.extend ⟨p.x, p.x, p.y, p.y⟩)

/-- Twice the signed area of the triangle `a b c`: positive when `c` lies left of the line from `a`
to `b`. -/
def side (a b c : Point2d) : ℚ := (b.x - a.x) * (c.y - a.y) - (b.y - a.y) * (c.x - a.x)

theorem side_swap (a b c : Point2d) : side b a c = -side a b c := by
  unfold side; ring

/-- The closed segment from `a` to `b` meets the box. -/
def Box.meetsSegment (B : Box) (a b : Point2d) : Bool :=
  decide (min a.x b.x ≤ B.xMax) && decide (B.xMin ≤ max a.x b.x) &&
    decide (min a.y b.y ≤ B.yMax) && decide (B.yMin ≤ max a.y b.y) &&
    !(B.corners.all (fun c => decide (0 < side a b c)) ||
      B.corners.all (fun c => decide (side a b c < 0)))

theorem Box.meetsSegment_comm (B : Box) (a b : Point2d) :
    B.meetsSegment a b = B.meetsSegment b a := by
  have hpos : ∀ c, decide (0 < side b a c) = decide (side a b c < 0) := fun c => by
    rw [side_swap]; simp only [neg_pos]
  have hneg : ∀ c, decide (side b a c < 0) = decide (0 < side a b c) := fun c => by
    rw [side_swap]; simp only [neg_lt_zero]
  simp only [meetsSegment, List.all_eq, hpos, hneg, min_comm a.x, max_comm a.x, min_comm a.y,
    max_comm a.y, Bool.or_comm]

namespace Geometry

/-- The axis-aligned reading of Boost.Geometry. -/
def axisAligned : Geometry where
  within p P := (P.bbox.map (·.contains p)).getD false
  distance p P := (P.bbox.map (·.distance p)).getD 0
  segmentIntersects P a b := (P.bbox.map (·.meetsSegment a b)).getD false
  segmentIntersects_comm P a b := by simp only [Box.meetsSegment_comm _ a b]
  intersects P Q := match P.bbox, Q.bbox with
    | some B, some C => B.overlaps C
    | _, _ => false
  obj2polygon pose dims :=
    Box.toPolygon ⟨pose.position.x - dims.x / 2, pose.position.x + dims.x / 2,
      pose.position.y - dims.y / 2, pose.position.y + dims.y / 2⟩
  toBoostPoly points := ⟨points.map Point.toBg2d⟩

end Geometry

/-- The direction a lanelet of the grid is driven in. -/
inductive Heading
  | east
  | north
deriving DecidableEq, Repr

/-- A rectangular lanelet of the grid. -/
structure GridLanelet where
  id : LaneId
  box : Box
  heading : Heading
deriving DecidableEq, Repr

namespace GridLanelet

/-- How far the point lies past the entry edge. -/
def along (l : GridLanelet) (p : Point) : ℚ :=
  match l.heading with
  | .east => p.x - l.box.xMin
  | .north => p.y - l.box.yMin

/-- The part of the lanelet's strip between two distances past its entry edge. -/
def strip (l : GridLanelet) (s e : ℚ) : Box :=
  match l.heading with
  | .east => ⟨l.box.xMin + s, l.box.xMin + e, l.box.yMin, l.box.yMax⟩
  | .north => ⟨l.box.xMin, l.box.xMax, l.box.yMin + s, l.box.yMin + e⟩

/-- `355/226` stands for a quarter turn. -/
def angle (l : GridLanelet) : ℚ :=
  match l.heading with
  | .east => 0
  | .north => 355 / 226

/-- The length of the centre line. -/
def length (l : GridLanelet) : ℚ :=
  match l.heading with
  | .east => l.box.xMax - l.box.xMin
  | .north => l.box.yMax - l.box.yMin

/-- The first point of the centre line. -/
def centerlineFront (l : GridLanelet) : Point2d :=
  match l.heading with
  | .east => ⟨l.box.xMin, (l.box.yMin + l.box.yMax) / 2⟩
  | .north => ⟨(l.box.xMin + l.box.xMax) / 2, l.box.yMin⟩

end GridLanelet

namespace LaneletMap

/-- The grid map of the lanelets; an id it does not hold reads as an empty lanelet at the
origin. -/
def grid (lanelets : List GridLanelet) : LaneletMap :=
  let get := fun (id : LaneId) => (lanelets.find? (·.id == id)).getD ⟨id, ⟨0, 0, 0, 0⟩, .east⟩
  { arcLength := fun ls pose => match ls with
      | [] => 0
      | id :: _ => max 0 ((get id).along pose.position)
    laneletLength3d := fun id => (get id).length
    subPolygon := fun ls s e => match ls with
      | [] => Box.corners ⟨0, 0, 0, 0⟩
      | id :: _ => ((get id).strip s e).corners
    subPolygon_ne_nil := fun ls _ _ _ => by cases ls <;> simp [Box.corners]
    isInLanelet := fun pose id radius => decide ((get id).box.distance pose.position.toBg2d ≤ radius)
    laneletAngle := fun id _ => (get id).angle
    centerlineFront := fun id => (get id).centerlineFront }

end LaneletMap

/-- The length of the polyline through the path points. -/
def polylineLength (cm : CMath) : List PathPointWithLaneId → ℚ
  | a :: b :: rest => calcDist2d cm a b + polylineLength cm (b :: rest)
  | _ => 0

/-- `355/113` stands for `π`. -/
def Util.grid (cm : CMath) : Util where
  calcArcLengthFromPath path src dst := polylineLength cm ((path.points.drop src).take (dst + 1 - src))
  normalizeRadian x :=
    if 355 / 113 < x then x - 2 * (355 / 113)
    else if x ≤ -(355 / 113) then x + 2 * (355 / 113) else x

/-! ### A crossing

The ego lane runs east along `y = 0`: lanelet 0 on `x ∈ [0, 20]`, the intersection lanelet 1 on
`[20, 40]` and lanelet 2 on `[40, 60]`, four metres wide, with a path point every ten metres.
Lanelets 20 and 21 cross it northwards on `x ∈ [28, 32]` and `x ∈ [36, 40]`; they are the detection
area. The ego vehicle drives at the intersection velocity of 5 m/s, and the clock reads 0. -/

namespace Crossing

def lanelets : List GridLanelet :=
  [⟨0, ⟨0, 20, -2, 2⟩, .east⟩, ⟨1, ⟨20, 40, -2, 2⟩, .east⟩, ⟨2, ⟨40, 60, -2, 2⟩, .east⟩,
    ⟨20, ⟨28, 32, -30, 30⟩, .north⟩, ⟨21, ⟨36, 40, -30, 30⟩, .north⟩]

def map : LaneletMap := LaneletMap.grid lanelets

def egoPoint (x : ℚ) (id : LaneId) : PathPointWithLaneId := ⟨⟨⟨x, 0, 0⟩, 0⟩, 5, [id]⟩

def path : PathWithLaneId :=
  ⟨[egoPoint 0 0, egoPoint 10 0, egoPoint 20 1, egoPoint 30 1, egoPoint 40 2, egoPoint 50 2]⟩

def detectionAreas : List Polygon2d :=
  [Box.toPolygon ⟨28, 32, -30, 30⟩, Box.toPolygon ⟨36, 40, -30, 30⟩]

def param : PlannerParam where
  stateTransitMarginTime := 1
  decelVelocity := 2
  detectionAreaLength := 30
  detectionAreaMargin := 1
  detectionAreaAngleThr := 1 / 2
  minPredictedPathConfidence := 1 / 2
  collisionStartMarginTime := 1
  collisionEndMarginTime := 1
  intersectionVelocity := 5
  intersectionMaxAcc := 0
  stuckVehicleDetectDist := 3
  stuckVehicleIgnoreDist := 5
  stuckVehicleVelThr := 1
  externalInputTimeout := 1

/-- The planner data with the ego vehicle at `x = egoX`; the vehicle's front is 4 m ahead of its
base link. -/
def plannerData (egoX : ℚ) (objects : List DynamicObject) : PlannerData :=
  ⟨⟨⟨egoX, 0, 0⟩, 0⟩, 5, objects, map, 4, 5, none⟩

/-- A predicted pose stamped at `t` seconds, heading north. -/
def predictedPose (t : Nat) (x y : ℚ) : PoseStamped :=
  ⟨⟨t * 1000000000⟩, ⟨⟨x, y, 0⟩, 355 / 226⟩⟩

/-- A two-metre car heading north at 5 m/s with one predicted path. -/
def northboundCar (x y : ℚ) (path : List PoseStamped) : DynamicObject :=
  ⟨⟨Semantic.CAR⟩, ⟨⟨⟨x, y, 0⟩, 355 / 226⟩, true, 5, [⟨path, 1⟩]⟩,
    ⟨Shape.BOUNDING_BOX, ⟨2, 2, 1⟩, []⟩⟩

end Crossing

end BehaviorVelocityPlanner
