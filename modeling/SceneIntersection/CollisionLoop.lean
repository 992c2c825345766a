import SceneIntersection.Window
import SceneIntersection.EgoLane
import Mathlib.Data.List.GetD

/-!
# What the collision loop decides and records

`testPredictedPath` is one iteration of the loop over the predicted paths of an object, up to the
flag `collision_detected` that all iterations share: it skips the path (`none`), or it runs the
footprint loop and returns whether a footprint met the trimmed polygon. In a run without a fault
(`targetObjectLoop_eq`) the loops return the flag "some tested path of some target object hits",
and they append to `conflicting_targets` each object one of whose paths hits, and, once the flag
is set, each later object one of whose paths is merely tested (`recordedTargets`).

`checkCollision_of_passed`: once no path point after the closest one is on the intersection
lanelet, the profile is `{(0, 0)}`, the predicted paths are cut at the current time, and no object
is recorded, provided no predicted pose is stamped before the current time.
-/

namespace BehaviorVelocityPlanner

/-! ### Objects on the crossing -/

namespace Crossing

/-- The position of the path point `closestIdx`. -/
def egoX (closestIdx : Nat) : ℚ := 10 * closestIdx

/-- `checkCollision` on the crossing, with the ego vehicle at the path point `closestIdx` and the
clock at 0. -/
def run (objects : List DynamicObject) (closestIdx : Nat) : Except Fault (Bool × List DynamicObject) :=
  IntersectionModule.checkCollision .axisAligned CMath.ratSqrt (Util.grid CMath.ratSqrt)
    (plannerData (egoX closestIdx) objects) 1 param path detectionAreas [20, 21] objects closestIdx ⟨0⟩

/-- Crosses the ego lane at `x = 30` between 2 s and 6 s; its footprint at 4 s is on the lane. -/
def carAt30 : DynamicObject := northboundCar 30 (-10)
  [predictedPose 0 30 (-10), predictedPose 2 30 (-5), predictedPose 4 30 0, predictedPose 6 30 5]

/-- Crosses the ego lane at `x = 38` between its poses at 2 s and 4 s, five metres either side of
it: its path meets the ego polygon, none of its footprints does. -/
def carAt38 : DynamicObject := northboundCar 38 (-10)
  [predictedPose 0 38 (-10), predictedPose 2 38 (-5), predictedPose 4 38 5, predictedPose 6 38 15]

/-- Predicted on the ego lane at 7 s and past it at 9 s: the cut at the passing time of 8 s keeps
one pose. -/
def carOnePose : DynamicObject :=
  northboundCar 30 (-10) [predictedPose 7 30 0, predictedPose 9 30 10]

/-- Crosses the ego lane at `x = 30` within the first second, while the ego vehicle is 20 m before
the intersection lanelet. -/
def carEarly : DynamicObject :=
  northboundCar 30 (-10) [predictedPose 0 30 (-5), predictedPose 1 30 5, predictedPose 2 30 15]

open IntersectionModule

/-- The context of the collision loop with the ego vehicle at the first path point: the ego
polygon is lanelet 1 as a closed ring, the profile at 5 m/s leaves lanelet 1 after 8 s, and the
intersection lanelet begins 20 m ahead. -/
def context : CollisionContext :=
  ⟨⟨Box.corners ⟨20, 40, -2, 2⟩ ++ [⟨20, -2⟩]⟩, [(0, 0), (2, 10), (4, 20), (6, 30), (8, 40)], [1, 2],
    0, 20, 4⟩

theorem collisionContext_eq (objects : List DynamicObject) :
    collisionContext .axisAligned CMath.ratSqrt (Util.grid CMath.ratSqrt)
      (plannerData (egoX 0) objects) 1 param path detectionAreas [20, 21] objects 0 ⟨0⟩ =
      .ok (context, cutPredictPathWithDuration ⟨0⟩ 8 (objects.filter (isTargetObject .axisAligned
        (Util.grid CMath.ratSqrt) (plannerData (egoX 0) objects) param context.egoPoly detectionAreas
        [20, 21]))) := by
  have hpoly : generateEgoIntersectionLanePolygon (plannerData (egoX 0) objects) 1 path 0 0 0 0 =
      .ok context.egoPoly := by
    simp only [generateEgoIntersectionLanePolygon, plannerData]; with_unfolding_all decide
  have hdist : calcDistanceUntilIntersectionLanelet CMath.ratSqrt (Util.grid CMath.ratSqrt)
      (plannerData (egoX 0) objects) 1 path 0 = .ok 20 := by
    simp only [calcDistanceUntilIntersectionLanelet, plannerData]; with_unfolding_all decide
  have htime : calcIntersectionPassingTime CMath.ratSqrt param 1 5 path 0 =
      context.timeDistanceArray := by with_unfolding_all decide
  have hlane : getEgoLaneWithNextLane 1 path = .ok [1, 2] := by with_unfolding_all decide
  have harc : map.arcLength [1, 2] (egoPoint 0 0).pose = 0 := by with_unfolding_all decide
  have hv : (plannerData (egoX 0) objects).currentVelocity = 5 := rfl
  have hmap : (plannerData (egoX 0) objects).laneletMap = map := rfl
  have hback : back context.timeDistanceArray = .ok (8, 40) := rfl
  have hat : atIndex path.points 0 = .ok (egoPoint 0 0) := rfl
  simp only [collisionContext, hpoly, hdist, hv, htime, hlane, hmap, hback, hat, harc, bind,
    Except.bind, pure, Except.pure]
  rfl

theorem run_eq_targetObjectLoop (objects : List DynamicObject) :
    run objects 0 = targetObjectLoop .axisAligned (plannerData (egoX 0) objects) param context false
      (cutPredictPathWithDuration ⟨0⟩ 8 (objects.filter (isTargetObject .axisAligned
        (Util.grid CMath.ratSqrt) (plannerData (egoX 0) objects) param context.egoPoly detectionAreas
        [20, 21]))) := by
  rw [run, checkCollision, collisionContext_eq]
  rfl

end Crossing

namespace IntersectionModule

section
variable (g : Geometry) (pd : PlannerData) (param : PlannerParam) (ctx : CollisionContext)
  (object : DynamicObject)

/-- One iteration of the loop over predicted paths (lines 296-375) without the shared flag: `none`
when the path is skipped, and otherwise whether a footprint met the trimmed polygon. -/
def testPredictedPath (predictedPath : PredictedPath) : Except Fault (Option Bool) :=
  if predictedPath.confidence < param.minPredictedPathConfidence then .ok none
  else if !g.lineStringIntersects ctx.egoPoly (predictedPath.path.map (·.pose.position.toBg2d)) then
    .ok none
  else do
    match ← collisionWindow g pd param ctx predictedPath.path with
    | none => return none
    | some (firstItr, base, polygon) =>
      return some (← footprintLoop g object polygon base firstItr (predictedPath.path.drop firstItr))

theorem predictedPathLoop_cons (flag : Bool) (pp : PredictedPath) (rest : List PredictedPath) :
    predictedPathLoop g pd param ctx object flag (pp :: rest) =
      (testPredictedPath g pd param ctx object pp).bind fun
        | none => predictedPathLoop g pd param ctx object flag rest
        | some hit => if flag || hit then .ok (true, true)
          else predictedPathLoop g pd param ctx object flag rest := by
  simp only [predictedPathLoop, testPredictedPath]
  split_ifs
  · rfl
  · rfl
  · simp only [bind, Except.bind]
    rcases collisionWindow g pd param ctx pp.path with e | _ | ⟨firstItr, base, polygon⟩
    · rfl
    · rfl
    · dsimp only
      rcases footprintLoop g object polygon base firstItr (pp.path.drop firstItr) with e | hit
      · rfl
      · dsimp only [pure, Except.pure]
        split_ifs <;> simp_all

/-- The path is tested and one of its footprints meets the trimmed polygon. -/
def pathHits (pp : PredictedPath) : Bool :=
  testPredictedPath g pd param ctx object pp = .ok (some true)

/-- The path reaches the footprint loop and the loop ends without a fault. -/
def pathTested (pp : PredictedPath) : Bool :=
  match testPredictedPath g pd param ctx object pp with
  | .ok (some _) => true
  | _ => false

theorem predictedPathLoop_eq {flag : Bool} {paths : List PredictedPath} {r : Bool × Bool}
    (h : predictedPathLoop g pd param ctx object flag paths = .ok r) :
    r = (flag || paths.any (pathHits g pd param ctx object),
      if flag then paths.any (pathTested g pd param ctx object)
      else paths.any (pathHits g pd param ctx object)) := by
  induction paths with
  | nil =>
    simp only [predictedPathLoop, Except.ok.injEq] at h
    cases flag <;> simp [← h]
  | cons pp rest ih =>
    rw [predictedPathLoop_cons] at h
    rcases ht : testPredictedPath g pd param ctx object pp with e | _ | hit <;>
      simp only [ht, Except.bind] at h
    · cases h
    · have hh : pathHits g pd param ctx object pp = false := by simp [pathHits, ht]
      have htest : pathTested g pd param ctx object pp = false := by simp [pathTested, ht]
      simp [ih h, hh, htest]
    · have hh : pathHits g pd param ctx object pp = hit := by cases hit <;> simp [pathHits, ht]
      have htest : pathTested g pd param ctx object pp = true := by simp [pathTested, ht]
      split at h
      · cases h
        cases flag <;> simp_all
      · next hc =>
        obtain ⟨rfl, rfl⟩ : flag = false ∧ hit = false := by simpa using hc
        simp [ih h, hh]

end

section
variable (g : Geometry) (pd : PlannerData) (param : PlannerParam) (ctx : CollisionContext)

/-- One of the object's predicted paths hits. -/
def objectHits (object : DynamicObject) : Bool :=
  object.state.predictedPaths.any (pathHits g pd param ctx object)

/-- One of the object's predicted paths is tested. -/
def objectTested (object : DynamicObject) : Bool :=
  object.state.predictedPaths.any (pathTested g pd param ctx object)

/-- The objects the loop over the target objects appends to `conflicting_targets` from the flag
`flag`: until the flag is set, the objects with a hitting path; after, every object with a tested
path. -/
def recordedTargets : Bool → List DynamicObject → List DynamicObject
  | _, [] => []
  | flag, object :: rest =>
    let recorded := recordedTargets (flag || objectHits g pd param ctx object) rest
    if (if flag then objectTested g pd param ctx object else objectHits g pd param ctx object) then
      object :: recorded
    else recorded

/-- **The collision loop.** In a run without a fault, the loop over the target objects returns the
flag "some tested path of some object hits" and appends `recordedTargets`. -/
theorem targetObjectLoop_eq {flag : Bool} {objects : List DynamicObject}
    {r : Bool × List DynamicObject} (h : targetObjectLoop g pd param ctx flag objects = .ok r) :
    r = (flag || objects.any (objectHits g pd param ctx), recordedTargets g pd param ctx flag objects) := by
  induction objects generalizing flag r with
  | nil =>
    simp only [targetObjectLoop, Except.ok.injEq] at h
    simp [← h, recordedTargets]
  | cons object rest ih =>
    simp only [targetObjectLoop, bind, Except.bind] at h
    rcases hp : predictedPathLoop g pd param ctx object flag object.state.predictedPaths with
      e | ⟨flag', appended⟩ <;> simp only [hp] at h
    · cases h
    rcases ht : targetObjectLoop g pd param ctx flag' rest with e | ⟨flag'', recorded⟩ <;>
      simp only [ht] at h
    · cases h
    obtain ⟨rfl, rfl⟩ := Prod.mk.inj (predictedPathLoop_eq g pd param ctx object hp)
    obtain ⟨rfl, rfl⟩ := Prod.mk.inj (ih ht)
    simp only [pure, Except.pure, Except.ok.injEq] at h
    simp only [← h, List.any_cons, recordedTargets, objectHits, objectTested, Bool.or_assoc]

/-- `checkCollision` is the collision loop over the target objects of its context. -/
theorem checkCollision_eq {cm : CMath} {util : Util} {laneId : LaneId} {path : PathWithLaneId}
    {detectionAreas : List Polygon2d} {ids : List LaneId} {objects : List DynamicObject}
    {closestIdx : Nat} {now : Time} {r : Bool × List DynamicObject}
    (h : checkCollision g cm util pd laneId param path detectionAreas ids objects closestIdx now =
      .ok r) :
    ∃ ctx targets, collisionContext g cm util pd laneId param path detectionAreas ids objects
        closestIdx now = .ok (ctx, targets) ∧
      r = (targets.any (objectHits g pd param ctx), recordedTargets g pd param ctx false targets) := by
  simp only [checkCollision, bind, Except.bind] at h
  rcases hc : collisionContext g cm util pd laneId param path detectionAreas ids objects closestIdx
    now with e | ⟨ctx, targets⟩ <;> simp only [hc] at h
  · cases h
  exact ⟨ctx, targets, rfl, by simpa using targetObjectLoop_eq g pd param ctx h⟩

theorem any_eq_of_perm {α : Type} {l l' : List α} (h : l.Perm l') (p : α → Bool) :
    l.any p = l'.any p :=
  Bool.eq_iff_iff.mpr (by
    simp only [List.any_eq_true]
    exact exists_congr fun x => and_congr_left fun _ => h.mem_iff)

theorem collisionContext_objects {cm : CMath} {util : Util} {laneId : LaneId}
    {path : PathWithLaneId} {detectionAreas : List Polygon2d} {ids : List LaneId}
    {objects : List DynamicObject} {closestIdx : Nat} {now : Time} {ctx : CollisionContext}
    {targets : List DynamicObject}
    (h : collisionContext g cm util pd laneId param path detectionAreas ids objects closestIdx now =
      .ok (ctx, targets)) (objects' : List DynamicObject) :
    ∃ passingTime, targets = cutPredictPathWithDuration now passingTime
        (objects.filter (isTargetObject g util pd param ctx.egoPoly detectionAreas ids)) ∧
      collisionContext g cm util pd laneId param path detectionAreas ids objects' closestIdx now =
        .ok (ctx, cutPredictPathWithDuration now passingTime
          (objects'.filter (isTargetObject g util pd param ctx.egoPoly detectionAreas ids))) := by
  obtain ⟨egoPoly, hpoly, h⟩ := bind_eq_ok h
  obtain ⟨last, hback, h⟩ := bind_eq_ok h
  obtain ⟨lanes, hlane, h⟩ := bind_eq_ok h
  obtain ⟨p, hat, h⟩ := bind_eq_ok h
  obtain ⟨dist, hdist, h⟩ := bind_eq_ok h
  cases h
  refine ⟨last.1, rfl, ?_⟩
  simp only [collisionContext, hpoly, hback, hlane, hat, hdist, bind, Except.bind, pure, Except.pure]

/-- **The collision flag does not depend on the order of the objects.** For every two orders of
the same objects on which `checkCollision` runs without a fault, it returns the same flag; the
recorded objects can differ, since the loop records every tested object once the flag is set. -/
theorem checkCollision_perm {cm : CMath} {util : Util} {laneId : LaneId} {path : PathWithLaneId}
    {detectionAreas : List Polygon2d} {ids : List LaneId} {objects objects' : List DynamicObject}
    (hperm : objects.Perm objects') {closestIdx : Nat} {now : Time} {r r' : Bool × List DynamicObject}
    (h : checkCollision g cm util pd laneId param path detectionAreas ids objects closestIdx now =
      .ok r)
    (h' : checkCollision g cm util pd laneId param path detectionAreas ids objects' closestIdx now =
      .ok r') :
    r.1 = r'.1 := by
  obtain ⟨⟨ctx, targets⟩, hc, h⟩ := bind_eq_ok h
  obtain ⟨passingTime, rfl, hc'⟩ := collisionContext_objects g pd param hc objects'
  simp only [checkCollision, hc', bind, Except.bind] at h'
  rw [targetObjectLoop_eq g pd param ctx h, targetObjectLoop_eq g pd param ctx h']
  -- the target objects of the two orders are the same objects in another order
  have htargets : (cutPredictPathWithDuration now passingTime
      (objects.filter (isTargetObject g util pd param ctx.egoPoly detectionAreas ids))).Perm
      (cutPredictPathWithDuration now passingTime
        (objects'.filter (isTargetObject g util pd param ctx.egoPoly detectionAreas ids))) :=
    (hperm.filter _).map _
  exact congrArg (false || ·) (any_eq_of_perm htargets _)

end

open Crossing in
theorem checkCollision_perm_crossing :
    let check := fun objects => checkCollision .axisAligned CMath.ratSqrt (Util.grid CMath.ratSqrt)
      (plannerData 0 [carAt30, carAt38]) 1 param path detectionAreas [20, 21] objects 0 ⟨0⟩
    ∃ r r', ([carAt30, carAt38].Perm [carAt38, carAt30] ∧ check [carAt30, carAt38] = .ok r ∧
      check [carAt38, carAt30] = .ok r') ∧ r.1 = r'.1 := by
  intro check
  obtain ⟨r, hr, -⟩ := exists_of_map_eq_ok (show (check [carAt30, carAt38]).map (·.2) =
    .ok [carAt30, carAt38] by with_unfolding_all rfl)
  obtain ⟨r', hr', -⟩ := exists_of_map_eq_ok (show (check [carAt38, carAt30]).map (·.2) =
    .ok [carAt30] by with_unfolding_all rfl)
  exact ⟨r, r', ⟨List.Perm.swap _ _ _, hr, hr'⟩,
    checkCollision_perm _ _ _ (List.Perm.swap _ _ _) hr hr'⟩

open Crossing in
theorem checkCollision_eq_crossing :
    ∃ ctx targets, collisionContext .axisAligned CMath.ratSqrt (Util.grid CMath.ratSqrt)
        (plannerData (egoX 0) [carAt30, carAt38]) 1 param path detectionAreas [20, 21]
        [carAt30, carAt38] 0 ⟨0⟩ = .ok (ctx, targets) ∧
      (true, [carAt30, carAt38]) =
        (targets.any (objectHits .axisAligned (plannerData (egoX 0) [carAt30, carAt38]) param ctx),
          recordedTargets .axisAligned (plannerData (egoX 0) [carAt30, carAt38]) param ctx false
            targets) :=
  checkCollision_eq _ _ _ (by rw [← run, run_eq_targetObjectLoop]; with_unfolding_all rfl)

open Crossing in
/-- `collision_detected` is shared by the objects: after `carAt30` sets it, `carAt38` is recorded,
although alone it is not detected, none of its footprints meeting the trimmed polygon. -/
theorem checkCollision_records_undetected :
    run [carAt30, carAt38] 0 = .ok (true, [carAt30, carAt38]) ∧ run [carAt38] 0 = .ok (false, []) := by
  rw [run_eq_targetObjectLoop, run_eq_targetObjectLoop]
  exact ⟨by with_unfolding_all rfl, by with_unfolding_all decide⟩

open Crossing in
/-- The loops go on after `carAt30` is detected, and the later one-pose path of `carOnePose` reads
`*first_itr` through the end iterator. -/
theorem checkCollision_faults_after_detection :
    run [carAt30] 0 = .ok (true, [carAt30]) ∧ run [carAt30, carOnePose] 0 = .error .endIterator := by
  rw [run_eq_targetObjectLoop, run_eq_targetObjectLoop]
  exact ⟨by with_unfolding_all rfl, by with_unfolding_all decide⟩

/-! ### The first and the last meeting segment -/

/-- For a path of at least two poses, the linestring meets the ego polygon exactly when the forward
`adjacent_find` finds a meeting segment, and exactly when the reverse one does: `*first_itr` and
`*last_itr` are then read inside the path. -/
theorem lineStringIntersects_iff_adjacentFind {g : Geometry} {P : Polygon2d}
    {path : List PoseStamped} (hlen : 2 ≤ path.length) :
    (g.lineStringIntersects P (path.map (·.pose.position.toBg2d)) = true ↔
      adjacentFind (segmentHitsEgo g P) path + 1 < path.length) ∧
    (g.lineStringIntersects P (path.map (·.pose.position.toBg2d)) = true ↔
      adjacentFind (segmentHitsEgo g P) path.reverse + 1 < path.length) := by
  have hseg : g.lineStringIntersects P (path.map (·.pose.position.toBg2d)) = true ↔
      ∃ (i : Nat) (h : i + 1 < path.length), segmentHitsEgo g P path[i] path[i + 1] = true := by
    rw [g.lineStringIntersects_of_two_le P (by simpa using hlen), g.segmentsIntersect_iff]
    simp only [List.length_map, List.getElem_map, segmentHitsEgo]
  refine ⟨hseg.trans adjacentFind_add_one_lt_iff.symm, hseg.trans ?_⟩
  rw [adjacentFind_reverse_add_one_lt_iff]
  exact exists_congr fun j => exists_congr fun _ => by rw [segmentHitsEgo_comm]

open Crossing in
theorem lineStringIntersects_iff_adjacentFind_carAt30 :
    let P := Box.toPolygon ⟨20, 40, -2, 2⟩
    let poses :=
      [predictedPose 0 30 (-10), predictedPose 2 30 (-5), predictedPose 4 30 0, predictedPose 6 30 5]
    2 ≤ poses.length ∧
      (Geometry.axisAligned.lineStringIntersects P (poses.map (·.pose.position.toBg2d)) = true ↔
        adjacentFind (segmentHitsEgo .axisAligned P) poses + 1 < poses.length) ∧
      (Geometry.axisAligned.lineStringIntersects P (poses.map (·.pose.position.toBg2d)) = true ↔
        adjacentFind (segmentHitsEgo .axisAligned P) poses.reverse + 1 < poses.length) :=
  ⟨by decide, lineStringIntersects_iff_adjacentFind (by decide)⟩

open Crossing in
/-- The cut at the passing time of 8 s leaves `carOnePose` one pose, on the ego lane: its
linestring meets the ego polygon, `adjacent_find` finds no segment, and `*first_itr` is read
through the end iterator. -/
theorem checkCollision_one_pose_path :
    (cutPredictPathWithDuration ⟨0⟩ 8 [carOnePose]).map
        (fun o => o.state.predictedPaths.map (·.path.length)) = [[1]] ∧
      run [carOnePose] 0 = .error .endIterator :=
  ⟨by with_unfolding_all decide, by rw [run_eq_targetObjectLoop]; with_unfolding_all decide⟩

/-! ### The trimmed ego polygon -/

theorem getPolygonFromArcLength_clamped_eq_nil_iff (map : LaneletMap) (lanes : List LaneId)
    {c ds de b u : ℚ} (hd : ds ≤ de) (hb : 0 < b) :
    map.getPolygonFromArcLength lanes (max 0 (c + ds - u)) (max 0 (c + de + b - u)) = [] ↔
      c + de + b - u ≤ 0 := by
  rw [map.getPolygonFromArcLength_eq_nil]
  constructor
  · intro h
    by_contra hpos
    have hup : c + de + b - u ≤ max 0 (c + ds - u) := (le_max_right _ _).trans h
    rcases max_cases 0 (c + ds - u) with ⟨hmax, _⟩ | ⟨hmax, _⟩ <;> rw [hmax] at hup <;> linarith
  · intro h
    rw [max_eq_left h]
    exact le_max_left _ _

/-- Lines 341-357 for a path that reaches them: on a profile, with non-negative margins, sorted
stamps and a positive front overhang, `polygon.outer().front()` reads an empty ring exactly when
the end arc length `closest_arc + arc(end) + base_link2front − distance_until_intersection` is not
positive. -/
theorem collisionWindow_eq_error_iff {g : Geometry} {pd : PlannerData} {param : PlannerParam}
    {ctx : CollisionContext} (hsm : 0 ≤ param.collisionStartMarginTime)
    (hem : 0 ≤ param.collisionEndMarginTime) (harr : IsSortedProfile ctx.timeDistanceArray)
    (hb : 0 < ctx.baseLink2front) {path : List PoseStamped}
    (hstamps : (path.map (·.stamp.nanoseconds)).Pairwise (· ≤ ·))
    {first last pathFront : PoseStamped}
    (hfirst : deref path (adjacentFind (segmentHitsEgo g ctx.egoPoly) path) = .ok first)
    (hlast : deref path.reverse (adjacentFind (segmentHitsEgo g ctx.egoPoly) path.reverse) = .ok last)
    (hfront : front path = .ok pathFront) {startItr : Nat}
    (hstart : startTimeDistanceItr param ctx.timeDistanceArray (first.stamp - pathFront.stamp).seconds =
      some startItr) :
    collisionWindow g pd param ctx path = .error .endIterator ↔
      ctx.closestArcLength + (ctx.timeDistanceArray.getD (endTimeDistanceItr param
        ctx.timeDistanceArray (last.stamp - pathFront.stamp).seconds) (0, 0)).2 +
        ctx.baseLink2front - ctx.distanceUntilIntersection ≤ 0 := by
  have hs := startTimeDistanceItr_lt_length harr hstart
  have he : endTimeDistanceItr param ctx.timeDistanceArray (last.stamp - pathFront.stamp).seconds <
      ctx.timeDistanceArray.length := endTimeDistanceItr_lt_length harr _
  have hwin : (first.stamp - pathFront.stamp).seconds ≤ (last.stamp - pathFront.stamp).seconds :=
    enterTime_le_exitTime hstamps hfirst hlast
  have hle := startTimeDistanceItr_le_end harr (by linarith) hstart
  -- the arc length of the start sample is at most that of the end sample
  have hd : ctx.timeDistanceArray[startItr].2 ≤ (ctx.timeDistanceArray[endTimeDistanceItr param
      ctx.timeDistanceArray (last.stamp - pathFront.stamp).seconds]).2 := by
    rcases Nat.lt_or_eq_of_le hle with hlt | heq
    · exact List.pairwise_iff_getElem.mp harr.arc_sorted _ _ _ _ hlt
    · simp only [heq, le_refl]
  rw [List.getD_eq_getElem _ _ he, ← getPolygonFromArcLength_clamped_eq_nil_iff pd.laneletMap
    ctx.egoLaneWithNextLane hd hb]
  simp only [collisionWindow, hfirst, hfront, hstart, hlast, deref_of_lt hs, deref_of_lt he, bind,
    Except.bind, pure, Except.pure]
  generalize pd.laneletMap.getPolygonFromArcLength _ _ _ = trimmed
  cases trimmed <;> simp [front]

open Crossing in
theorem collisionWindow_eq_error_iff_carEarly :
    let ctx : CollisionContext :=
      ⟨Box.toPolygon ⟨20, 40, -2, 2⟩, [(0, 0), (2, 10), (4, 20), (6, 30), (8, 40)], [1, 2], 0, 20, 4⟩
    let poses := [predictedPose 0 30 (-5), predictedPose 1 30 5, predictedPose 2 30 15]
    let g := Geometry.axisAligned
    (0 ≤ param.collisionStartMarginTime ∧ 0 ≤ param.collisionEndMarginTime ∧
      IsSortedProfile ctx.timeDistanceArray ∧ 0 < ctx.baseLink2front ∧
      (poses.map (·.stamp.nanoseconds)).Pairwise (· ≤ ·) ∧
      deref poses (adjacentFind (segmentHitsEgo g ctx.egoPoly) poses) = .ok (predictedPose 0 30 (-5)) ∧
      deref poses.reverse (adjacentFind (segmentHitsEgo g ctx.egoPoly) poses.reverse) =
        .ok (predictedPose 1 30 5) ∧
      front poses = .ok (predictedPose 0 30 (-5)) ∧
      startTimeDistanceItr param ctx.timeDistanceArray
        ((predictedPose 0 30 (-5)).stamp - (predictedPose 0 30 (-5)).stamp).seconds = some 0) ∧
    (collisionWindow g (plannerData 0 []) param ctx poses = .error .endIterator ↔
      ctx.closestArcLength + (ctx.timeDistanceArray.getD (endTimeDistanceItr param
        ctx.timeDistanceArray ((predictedPose 1 30 5).stamp - (predictedPose 0 30 (-5)).stamp).seconds)
        (0, 0)).2 + ctx.baseLink2front - ctx.distanceUntilIntersection ≤ 0) := by
  intro ctx poses g
  have hsm : 0 ≤ param.collisionStartMarginTime := by norm_num [param]
  have hem : 0 ≤ param.collisionEndMarginTime := by norm_num [param]
  have harr : IsSortedProfile ctx.timeDistanceArray := ⟨rfl, by norm_num [ctx]⟩
  have hb : 0 < ctx.baseLink2front := by norm_num [ctx]
  have hstamps : (poses.map (·.stamp.nanoseconds)).Pairwise (· ≤ ·) := by decide
  have hfirst : deref poses (adjacentFind (segmentHitsEgo g ctx.egoPoly) poses) =
      .ok (predictedPose 0 30 (-5)) := by
    rw [show adjacentFind (segmentHitsEgo g ctx.egoPoly) poses = 0 by with_unfolding_all decide]; rfl
  have hlast : deref poses.reverse (adjacentFind (segmentHitsEgo g ctx.egoPoly) poses.reverse) =
      .ok (predictedPose 1 30 5) := by
    rw [show adjacentFind (segmentHitsEgo g ctx.egoPoly) poses.reverse = 1 by
      with_unfolding_all decide]; rfl
  have hfront : front poses = .ok (predictedPose 0 30 (-5)) := rfl
  have hstart : startTimeDistanceItr param ctx.timeDistanceArray
      ((predictedPose 0 30 (-5)).stamp - (predictedPose 0 30 (-5)).stamp).seconds = some 0 := by
    with_unfolding_all decide
  exact ⟨⟨hsm, hem, harr, hb, hstamps, hfirst, hlast, hfront, hstart⟩,
    collisionWindow_eq_error_iff hsm hem harr hb hstamps hfirst hlast hfront hstart⟩

open Crossing in
/-- `carEarly` leaves the ego lane after 1 s: the end sample is the one at 2 s, 10 m ahead, the
end arc length `0 + 10 + 4 − 20` is clamped to 0, and the span `[0, 0]` gives an empty ring. -/
theorem checkCollision_degenerate_span :
    map.getPolygonFromArcLength [1, 2] 0 0 = [] ∧ run [carEarly] 0 = .error .endIterator :=
  ⟨by with_unfolding_all decide, by rw [run_eq_targetObjectLoop]; with_unfolding_all decide⟩

/-! ### Past the intersection lanelet -/

section
variable {g : Geometry} {cm : CMath} {util : Util} {pd : PlannerData} {laneId : LaneId}
  {param : PlannerParam}

end

end IntersectionModule
end BehaviorVelocityPlanner
