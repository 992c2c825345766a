import SceneIntersection.PassingTime
import SceneIntersection.StdAlgorithm

/-!
# Collision check

`IntersectionModule::checkCollision` and the methods it calls. The target objects are the
vehicles outside the ego polygon that are near a detection area with a heading its lanelets
accept. Their predicted paths are cut at the passing time of the time-distance profile; then a loop
over the objects and an inner loop over their predicted paths test each confident path that meets
the ego polygon: the poses between its first and last meeting segment are checked against the ego
lane trimmed to the arc-length window of the path's time window. The flag `collision_detected` is
shared by all objects; the inner loop appends its object to `conflicting_targets` and stops
whenever the flag is set after a tested path.

The loops return the final flag and the objects appended to `conflicting_targets` (the caller
resets `debug_data_` each cycle); the other debug fields are not modelled.
-/

namespace BehaviorVelocityPlanner

/-- `getObjectPoseWithVelocityDirection`: the pose, with its yaw replaced by `-yaw` when the
orientation is not reliable and the object moves backwards (`setRPY(roll, pitch, -yaw)`). -/
def getObjectPoseWithVelocityDirection (objState : ObjectState) : Pose :=
  if objState.orientationReliable then objState.pose
  else if objState.twistX ≥ 0 then objState.pose
  else { objState.pose with yaw := -objState.pose.yaw }

namespace IntersectionModule

/-- `IntersectionModule::isTargetCollisionVehicleType`. -/
def isTargetCollisionVehicleType (object : DynamicObject) : Bool :=
  object.semantic.type == Semantic.CAR || object.semantic.type == Semantic.BUS ||
    object.semantic.type == Semantic.TRUCK || object.semantic.type == Semantic.MOTORBIKE ||
    object.semantic.type == Semantic.BICYCLE

/-- `IntersectionModule::isTargetStuckVehicleType`. -/
def isTargetStuckVehicleType (object : DynamicObject) : Bool :=
  object.semantic.type == Semantic.CAR || object.semantic.type == Semantic.BUS ||
    object.semantic.type == Semantic.TRUCK || object.semantic.type == Semantic.MOTORBIKE

/-- `IntersectionModule::toPredictedFootprintPolygon`. -/
def toPredictedFootprintPolygon (g : Geometry) (object : DynamicObject) (predictedPose : PoseStamped) :
    Polygon2d :=
  g.obj2polygon predictedPose.pose object.shape.dimensions

/-- `IntersectionModule::cutPredictPathWithDuration`: keep the predicted poses stamped less than
`timeThr` after `now` (`clock_->now()`). -/
def cutPredictPathWithDuration (now : Time) (timeThr : ℚ) (objects : List DynamicObject) :
    List DynamicObject :=
  let cut := fun (predictedPath : PredictedPath) =>
    { predictedPath with path := predictedPath.path.filter fun p => (p.stamp - now).seconds < timeThr }
  objects.map fun object =>
    { object with state.predictedPaths := object.state.predictedPaths.map cut }

section
variable (g : Geometry) (cm : CMath) (util : Util) (pd : PlannerData) (laneId : LaneId)
  (param : PlannerParam)

/-- `IntersectionModule::checkAngleForTargetLanelets`: some target lanelet contains the pose and
its angle is within `detection_area_angle_thr` of the pose's yaw. -/
def checkAngleForTargetLanelets (pose : Pose) (targetLaneletIds : List LaneId) : Bool :=
  targetLaneletIds.any fun id =>
    pd.laneletMap.isInLanelet pose id param.detectionAreaMargin &&
      decide (|util.normalizeRadian (pd.laneletMap.laneletAngle id pose.position - pose.yaw)| <
        param.detectionAreaAngleThr)

/-- The predicate `p.lane_ids.front() == lane_id_` of the two `find_if`s. -/
def isFirstLaneId (p : PathPointWithLaneId) : Except Fault Bool := do
  return (← front p.laneIds) == laneId

/-- `IntersectionModule::getEgoLaneWithNextLane`: the reverse `find_if` for the last point whose
first lane id is `lane_id_`; if `last_itr.base()` is not `end()`, the lanelet of the point there
follows the assigned one. -/
def getEgoLaneWithNextLane (path : PathWithLaneId) : Except Fault (List LaneId) := do
  let lastItr ← findIf (isFirstLaneId laneId) path.points.reverse
  let base := path.points.length - lastItr
  if base ≠ path.points.length then
    let nextLanelet ← front (← deref path.points base).laneIds
    return [laneId, nextLanelet]
  else
    return [laneId]

/-- `IntersectionModule::calcDistanceUntilIntersectionLanelet`. -/
def calcDistanceUntilIntersectionLanelet (path : PathWithLaneId) (closestIdx : Nat) :
    Except Fault ℚ := do
  let intersectionFirstItr ← findIf (isFirstLaneId laneId) path.points
  if intersectionFirstItr = 0 ∨ intersectionFirstItr = path.points.length then return 0
  let dstIdx := intersectionFirstItr - 1
  if closestIdx > dstIdx then return 0
  let distance := util.calcArcLengthFromPath path closestIdx dstIdx
  let laneFirstPoint := pd.laneletMap.centerlineFront laneId
  let dst ← atIndex path.points dstIdx
  return distance + cm.hypot (dst.pose.position.x - laneFirstPoint.x)
    (dst.pose.position.y - laneFirstPoint.y)

/-- `IntersectionModule::generateEgoIntersectionLanePolygon`. -/
def generateEgoIntersectionLanePolygon (path : PathWithLaneId) (closestIdx startIdx : Nat)
    (extraDist ignoreDist : ℚ) : Except Fault Polygon2d := do
  let egoLaneWithNextLane ← getEgoLaneWithNextLane laneId path
  let startArcCoords := pd.laneletMap.arcLength egoLaneWithNextLane (← atIndex path.points startIdx).pose
  let closestArcCoords :=
    pd.laneletMap.arcLength egoLaneWithNextLane (← atIndex path.points closestIdx).pose
  let startArcLength :=
    if startArcCoords + ignoreDist < closestArcCoords then closestArcCoords
    else startArcCoords + ignoreDist
  let endArcLength := pd.laneletMap.laneletLength3d (← front egoLaneWithNextLane) + extraDist
  let targetPolygon :=
    pd.laneletMap.getPolygonFromArcLength egoLaneWithNextLane startArcLength endArcLength
  if targetPolygon = [] then return ⟨[]⟩
  return ⟨targetPolygon ++ [← front targetPolygon]⟩

/-- Whether an object is kept as a target (lines 249-278): a vehicle type, not within the ego
polygon, and near some detection area with a heading the detection lanelets accept. -/
def isTargetObject (egoPoly : Polygon2d) (detectionAreas : List Polygon2d)
    (detectionAreaLaneletIds : List LaneId) (object : DynamicObject) : Bool :=
  isTargetCollisionVehicleType object &&
    !g.within object.state.pose.position.toBg2d egoPoly &&
    detectionAreas.any fun detectionArea =>
      !decide (g.distance object.state.pose.position.toBg2d detectionArea > param.detectionAreaMargin) &&
        checkAngleForTargetLanelets util pd param (getObjectPoseWithVelocityDirection object.state)
          detectionAreaLaneletIds

/-- What `checkCollision` computes before its collision loop. -/
structure CollisionContext where
  egoPoly : Polygon2d
  timeDistanceArray : TimeDistanceArray
  egoLaneWithNextLane : List LaneId
  closestArcLength : ℚ
  distanceUntilIntersection : ℚ
  baseLink2front : ℚ

/-- The `adjacent_find` predicate: the segment between two predicted poses meets the ego polygon. -/
def segmentHitsEgo (egoPoly : Polygon2d) (a b : PoseStamped) : Bool :=
  g.segmentIntersects egoPoly a.pose.position.toBg2d b.pose.position.toBg2d

/-- Lines 319-328: the start sample of the profile, or `none` for the `continue` at line 327. -/
def startTimeDistanceItr (timeDistanceArray : TimeDistanceArray) (enterTime : ℚ) : Option Nat :=
  if enterTime - param.collisionStartMarginTime > 0 then
    let itr := lowerBound (fun a => decide (a.1 < enterTime - param.collisionStartMarginTime))
      timeDistanceArray
    if itr = timeDistanceArray.length then none else some itr
  else some 0

/-- Lines 332-340: the end sample of the profile. -/
def endTimeDistanceItr (timeDistanceArray : TimeDistanceArray) (exitTime : ℚ) : Nat :=
  let itr := lowerBound (fun a => decide (a.1 < exitTime + param.collisionEndMarginTime))
    timeDistanceArray
  if itr = timeDistanceArray.length then timeDistanceArray.length - 1 else itr

/-- Lines 306-357 for a predicted path that meets the ego polygon: the position of `first_itr`,
the position of `last_itr.base()` and the trimmed ego polygon, or `none` when the path is skipped
at line 327. -/
def collisionWindow (ctx : CollisionContext) (path : List PoseStamped) :
    Except Fault (Option (Nat × Nat × Polygon2d)) := do
  let firstItr := adjacentFind (segmentHitsEgo g ctx.egoPoly) path
  let lastItr := adjacentFind (segmentHitsEgo g ctx.egoPoly) path.reverse
  let refObjectEnterTime := ((← deref path firstItr).stamp - (← front path).stamp).seconds
  match startTimeDistanceItr param ctx.timeDistanceArray refObjectEnterTime with
  | none => return none
  | some startItr =>
    let refObjectExitTime := ((← deref path.reverse lastItr).stamp - (← front path).stamp).seconds
    let endItr := endTimeDistanceItr param ctx.timeDistanceArray refObjectExitTime
    let startArcLength := max 0
      (ctx.closestArcLength + (← deref ctx.timeDistanceArray startItr).2 - ctx.distanceUntilIntersection)
    let endArcLength := max 0 (ctx.closestArcLength + (← deref ctx.timeDistanceArray endItr).2 +
      ctx.baseLink2front - ctx.distanceUntilIntersection)
    let trimmedEgoPolygon :=
      pd.laneletMap.getPolygonFromArcLength ctx.egoLaneWithNextLane startArcLength endArcLength
    return some (firstItr, path.length - lastItr,
      ⟨trimmedEgoPolygon ++ [← front trimmedEgoPolygon]⟩)

/-- Lines 361-369: from the position `itr` of the pose at the head of `poses` up to `base`, the
first footprint that intersects the trimmed polygon; stepping past the end faults. -/
def footprintLoop (object : DynamicObject) (polygon : Polygon2d) (base : Nat) :
    Nat → List PoseStamped → Except Fault Bool
  | itr, [] => if itr = base then .ok false else .error .endIterator
  | itr, p :: rest =>
    if itr = base then .ok false
    else if g.intersects polygon (toPredictedFootprintPolygon g object p) then .ok true
    else footprintLoop object polygon base (itr + 1) rest

/-- The loop over the predicted paths of one target object from `collision_detected`: the flag
after it, and whether the object was appended to `conflicting_targets`. -/
def predictedPathLoop (ctx : CollisionContext) (object : DynamicObject) :
    Bool → List PredictedPath → Except Fault (Bool × Bool)
  | collisionDetected, [] => .ok (collisionDetected, false)
  | collisionDetected, predictedPath :: rest =>
    if predictedPath.confidence < param.minPredictedPathConfidence then
      predictedPathLoop ctx object collisionDetected rest
    else if !g.lineStringIntersects ctx.egoPoly (predictedPath.path.map (·.pose.position.toBg2d))
    then predictedPathLoop ctx object collisionDetected rest
    else do
      match ← collisionWindow g pd param ctx predictedPath.path with
      | none => predictedPathLoop ctx object collisionDetected rest
      | some (firstItr, base, polygon) =>
        let collisionDetected :=
          collisionDetected || (← footprintLoop g object polygon base firstItr (predictedPath.path.drop firstItr))
        if collisionDetected then return (collisionDetected, true)
        else predictedPathLoop ctx object collisionDetected rest

/-- The loop over the target objects from `collision_detected`: the final flag and the objects
appended to `conflicting_targets`, in order. -/
def targetObjectLoop (ctx : CollisionContext) :
    Bool → List DynamicObject → Except Fault (Bool × List DynamicObject)
  | collisionDetected, [] => .ok (collisionDetected, [])
  | collisionDetected, object :: rest => do
    let (collisionDetected, appended) ←
      predictedPathLoop g pd param ctx object collisionDetected object.state.predictedPaths
    let (collisionDetected, conflictingTargets) ← targetObjectLoop ctx collisionDetected rest
    return (collisionDetected, if appended then object :: conflictingTargets else conflictingTargets)

/-- Lines 240-292 of `IntersectionModule::checkCollision`, before the collision loop: the context
of the loop and the target objects with their predicted paths cut at the passing time; `now` is
`clock_->now()`. -/
def collisionContext (path : PathWithLaneId) (detectionAreas : List Polygon2d)
    (detectionAreaLaneletIds : List LaneId) (objects : List DynamicObject) (closestIdx : Nat)
    (now : Time) : Except Fault (CollisionContext × List DynamicObject) := do
  let egoPoly ← generateEgoIntersectionLanePolygon pd laneId path closestIdx closestIdx 0 0
  let targetObjects :=
    objects.filter (isTargetObject g util pd param egoPoly detectionAreas detectionAreaLaneletIds)
  let timeDistanceArray :=
    calcIntersectionPassingTime cm param laneId pd.currentVelocity path closestIdx
  let passingTime := (← back timeDistanceArray).1
  let targetObjects := cutPredictPathWithDuration now passingTime targetObjects
  let egoLaneWithNextLane ← getEgoLaneWithNextLane laneId path
  let closestArcCoords :=
    pd.laneletMap.arcLength egoLaneWithNextLane (← atIndex path.points closestIdx).pose
  let distanceUntilIntersection ← calcDistanceUntilIntersectionLanelet cm util pd laneId path closestIdx
  return (⟨egoPoly, timeDistanceArray, egoLaneWithNextLane, closestArcCoords,
    distanceUntilIntersection, pd.maxLongitudinalOffsetM⟩, targetObjects)

/-- `IntersectionModule::checkCollision`. Returns `collision_detected` and the objects appended to
`debug_data_.conflicting_targets`. -/
def checkCollision (path : PathWithLaneId) (detectionAreas : List Polygon2d)
    (detectionAreaLaneletIds : List LaneId) (objects : List DynamicObject) (closestIdx : Nat)
    (now : Time) : Except Fault (Bool × List DynamicObject) := do
  let (ctx, targetObjects) ←
    collisionContext g cm util pd laneId param path detectionAreas detectionAreaLaneletIds objects
      closestIdx now
  targetObjectLoop g pd param ctx false targetObjects

end

end IntersectionModule
end BehaviorVelocityPlanner
