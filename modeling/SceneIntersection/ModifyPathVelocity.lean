import SceneIntersection.CollisionLoop
import SceneIntersection.StateMachine

/-!
# The planning cycle

`IntersectionModule::modifyPathVelocity`: the module's state is its lane, its parameters, the turn
direction and traffic light of its lanelet, and the state machine, whose margin is the parameter
`state_transit_margin_time` (`IntersectionModule.margin_eq`). A cycle places the stop and pass
judge lines, returns early when there is no detection area, when a line cannot be placed or is at
the start of the path, or when the vehicle in GO has passed the pass judge line; otherwise it runs
the collision and stuck-vehicle checks, requests STOP or GO of the state machine, and in STOP
writes the stop velocity and the stop reason.

The cycle is split at the latch: `prepareCycle` (lines 73-138) reads no state of the machine, and
`decideCycle` (lines 139-209) is the rest. `modifyPathVelocity_idempotent`: a second cycle on the
same snapshot, clock reading and input path returns what the first returned and leaves the
machine where the first left it, when the margin time is not negative.
`modifyPathVelocity_externalStop`: a fresh external STOP stops the module in the cycle that reads
it, past the pass judge line too.
-/

namespace BehaviorVelocityPlanner

/-- The helpers of the intersection module's `util` namespace (`scene_module/intersection/util.hpp`,
not under `src/`), over the map, routing graph and vehicle of the planning cycle. -/
structure IntersectionUtil where
  /-- `util::getObjectiveLanelets`: the conflicting and the detection lanelets, by groups. -/
  getObjectiveLanelets : LaneId → PlannerParam → List (List LaneId) × List (List LaneId)
  /-- `util::getPolygon3dFromLaneletsVec`, projected to the plane. -/
  getPolygon3dFromLaneletsVec : List (List LaneId) → ℚ → List Polygon2d
  /-- `util::getLaneletIdsFromLaneletsVec`. -/
  getLaneletIdsFromLaneletsVec : List (List LaneId) → List LaneId
  /-- `util::generateStopLine`: its result, the path it writes, and `stop_line_idx`,
  `pass_judge_line_idx` and `first_idx_inside_lane`. -/
  generateStopLine : LaneId → List Polygon2d → PlannerParam → PathWithLaneId →
    Bool × PathWithLaneId × Int × Int × Int
  /-- `planning_utils::calcClosestIndex`, `none` when it fails. -/
  calcClosestIndex : PathWithLaneId → Pose → Option Nat
  /-- `util::isAheadOf(target, origin)`. -/
  isAheadOf : Pose → Pose → Bool
  /-- `util::setVelocityFrom(idx, vel, path)`. -/
  setVelocityFrom : Int → ℚ → PathWithLaneId → PathWithLaneId

/-- `planning_utils::initializeStopReason(StopReason::INTERSECTION)`. -/
def initializeStopReason : StopReason := ⟨"Intersection", []⟩

/-- `planning_utils::appendStopReason`. -/
def appendStopReason (stopFactor : StopFactor) (stopReason : StopReason) : StopReason :=
  { stopReason with stopFactors := stopReason.stopFactors ++ [stopFactor] }

/-- Modelled from the spec: `planning_utils::toRosPoints` (not under `src/`), "the points from
colliding and stuck objects": their positions. -/
def toRosPoints (objects : List DynamicObject) : List Point :=
  objects.map (·.state.pose.position)

namespace IntersectionModule

/-- The data members of an `IntersectionModule` that a cycle reads and writes. The constructor sets
the margin of the state machine to `state_transit_margin_time`, and nothing changes either
afterwards. -/
structure Members where
  laneId : LaneId
  plannerParam : PlannerParam
  turnDirection : String
  hasTrafficLight : Bool
  stateMachine : StateMachine
  margin_eq : stateMachine.marginTime = plannerParam.stateTransitMarginTime

instance : DecidableEq Members := fun a b =>
  decidable_of_iff (a.laneId = b.laneId ∧ a.plannerParam = b.plannerParam ∧
      a.turnDirection = b.turnDirection ∧ a.hasTrafficLight = b.hasTrafficLight ∧
      a.stateMachine = b.stateMachine) <| by
    obtain ⟨_, _, _, _, _, _⟩ := a
    obtain ⟨_, _, _, _, _, _⟩ := b
    simp only [Members.mk.injEq]

/-- `state_machine_.setStateWithMarginTime(state, ..., *clock_)`, which keeps the margin. -/
def Members.setStateWithMarginTime (m : Members) (state : State) (now : Time) : Members :=
  { m with
    stateMachine := m.stateMachine.setStateWithMarginTime state now
    margin_eq := by rw [StateMachine.setStateWithMarginTime_marginTime, m.margin_eq] }

section
variable (m : Members) (state : State) (now : Time)

@[simp] theorem Members.setStateWithMarginTime_stateMachine :
    (m.setStateWithMarginTime state now).stateMachine =
      m.stateMachine.setStateWithMarginTime state now := rfl

@[simp] theorem Members.setStateWithMarginTime_laneId :
    (m.setStateWithMarginTime state now).laneId = m.laneId := rfl

@[simp] theorem Members.setStateWithMarginTime_plannerParam :
    (m.setStateWithMarginTime state now).plannerParam = m.plannerParam := rfl

@[simp] theorem Members.setStateWithMarginTime_turnDirection :
    (m.setStateWithMarginTime state now).turnDirection = m.turnDirection := rfl

@[simp] theorem Members.setStateWithMarginTime_hasTrafficLight :
    (m.setStateWithMarginTime state now).hasTrafficLight = m.hasTrafficLight := rfl

end

theorem Members.setStateWithMarginTime_idem {m : Members}
    (h : 0 ≤ m.plannerParam.stateTransitMarginTime) (state : State) (now : Time) :
    (m.setStateWithMarginTime state now).setStateWithMarginTime state now =
      m.setStateWithMarginTime state now := by
  obtain ⟨laneId, param, turnDirection, hasTrafficLight, sm, hmargin⟩ := m
  simp only [Members.setStateWithMarginTime, Members.mk.injEq, true_and]
  exact StateMachine.setStateWithMarginTime_idem (by rw [hmargin]; exact h) state now

section
variable (pd : PlannerData) (param : PlannerParam) (now : Time)

/-- `IntersectionModule::isTargetExternalInputStatus`. -/
def isTargetExternalInputStatus (targetStatus : UInt8) : Bool :=
  match pd.externalIntersectionStatusInput with
  | none => false
  | some input =>
    input.status == targetStatus && decide ((now - input.stamp).seconds < param.externalInputTimeout)

theorem isTargetExternalInputStatus_GO_of_STOP
    (h : isTargetExternalInputStatus pd param now IntersectionStatus.STOP = true) :
    isTargetExternalInputStatus pd param now IntersectionStatus.GO = false := by
  unfold isTargetExternalInputStatus at h ⊢
  split at h
  · cases h
  · simp only [Bool.and_eq_true, beq_iff_eq] at h
    simp [h.1, IntersectionStatus.STOP, IntersectionStatus.GO]

end

/-- `IntersectionModule::toFootprintPolygon`: a polygon shape by its points, any other shape as
the box of its dimensions. -/
def toFootprintPolygon (g : Geometry) (object : DynamicObject) : Polygon2d :=
  if object.shape.type == Shape.POLYGON then g.toBoostPoly object.shape.footprint
  else g.obj2polygon object.state.pose object.shape.dimensions

/-- `IntersectionModule::checkStuckVehicleInIntersection`: whether a stopped vehicle is in the
stuck-vehicle detection area, and the object appended to `stuck_targets`. -/
def checkStuckVehicleInIntersection (g : Geometry) (pd : PlannerData) (laneId : LaneId)
    (param : PlannerParam) (path : PathWithLaneId) (closestIdx stopIdx : Nat)
    (objects : List DynamicObject) : Except Fault (Bool × List DynamicObject) := do
  let detectLength := param.stuckVehicleDetectDist + pd.vehicleLengthM
  let stuckVehicleDetectArea ← generateEgoIntersectionLanePolygon pd laneId path closestIdx stopIdx
    detectLength param.stuckVehicleIgnoreDist
  let isStuck := fun object =>
    isTargetStuckVehicleType object && !decide (|object.state.twistX| > param.stuckVehicleVelThr) &&
      g.intersects (toFootprintPolygon g object) stuckVehicleDetectArea
  match objects.find? isStuck with
  | some object => return (true, [object])
  | none => return (false, [])

/-- What lines 73-138 compute for the rest of the cycle. -/
structure CyclePlan where
  externalGo : Bool
  externalStop : Bool
  path : PathWithLaneId
  detectionAreas : List Polygon2d
  detectionAreaLaneletIds : List LaneId
  stopLineIdx : Int
  passJudgeLineIdx : Int
  closestIdx : Nat
  isOverPassJudgeLine : Bool

section
variable (g : Geometry) (cm : CMath) (util : Util) (iutil : IntersectionUtil) (pd : PlannerData)
  (now : Time)

/-- Lines 73-138 of `modifyPathVelocity`, which read no state of the machine: `.inl` with the
return value and the path for the returns before the latch, `.inr` with the plan of the cycle. -/
def prepareCycle (laneId : LaneId) (param : PlannerParam) (path : PathWithLaneId) :
    Except Fault ((Bool × PathWithLaneId) ⊕ CyclePlan) := do
  let externalGo := isTargetExternalInputStatus pd param now IntersectionStatus.GO
  let externalStop := isTargetExternalInputStatus pd param now IntersectionStatus.STOP
  let inputPath := path
  let (conflictingAreaLanelets, detectionAreaLanelets) := iutil.getObjectiveLanelets laneId param
  let conflictingAreas :=
    iutil.getPolygon3dFromLaneletsVec conflictingAreaLanelets param.detectionAreaLength
  let detectionAreas := iutil.getPolygon3dFromLaneletsVec detectionAreaLanelets param.detectionAreaLength
  let detectionAreaLaneletIds := iutil.getLaneletIdsFromLaneletsVec detectionAreaLanelets
  if detectionAreas.isEmpty then return .inl (true, path)
  let (generated, path, stopLineIdx, passJudgeLineIdx, _) :=
    iutil.generateStopLine laneId conflictingAreas param inputPath
  if !generated then return .inl (false, path)
  if stopLineIdx ≤ 0 ∨ passJudgeLineIdx ≤ 0 then return .inl (true, path)
  let some closestIdx := iutil.calcClosestIndex inputPath pd.currentPose | return .inl (false, path)
  let isOverPassJudgeLine ←
    if (closestIdx : Int) = passJudgeLineIdx then do
      let passJudgeLine := (← atIndex path.points passJudgeLineIdx.toNat).pose
      pure (iutil.isAheadOf pd.currentPose passJudgeLine)
    else pure (decide ((closestIdx : Int) > passJudgeLineIdx))
  return .inr ⟨externalGo, externalStop, path, detectionAreas, detectionAreaLaneletIds, stopLineIdx,
    passJudgeLineIdx, closestIdx, isOverPassJudgeLine⟩

theorem prepareCycle_externals {laneId : LaneId} {param : PlannerParam} {path : PathWithLaneId}
    {c : CyclePlan} (h : prepareCycle iutil pd now laneId param path = .ok (.inr c)) :
    c.externalGo = isTargetExternalInputStatus pd param now IntersectionStatus.GO ∧
      c.externalStop = isTargetExternalInputStatus pd param now IntersectionStatus.STOP := by
  unfold prepareCycle at h
  simp only [bind, Except.bind, pure, Except.pure] at h
  repeat' split at h
  all_goals cases h <;> exact ⟨rfl, rfl⟩

/-- Lines 159-165: the checks decide, unless an external input overrides them, STOP last. -/
def isEntryProhibited (c : CyclePlan) (hasCollision isStuck : Bool) : Bool :=
  if c.externalGo then false else if c.externalStop then true else hasCollision || isStuck

/-- Lines 172-209 after the request: in STOP, the velocity from the stop line and, when a stop is
required, the stop factor with the stop pose and the points of the conflicting and stuck
objects. -/
def writeDecision (m : Members) (c : CyclePlan) (isStuck : Bool)
    (conflictingTargets stuckTargets : List DynamicObject) :
    Except Fault (Bool × PathWithLaneId × StopReason) := do
  if m.stateMachine.getState = .STOP then
    let isStopRequired := isStuck || !m.hasTrafficLight || m.turnDirection != "straight"
    let v := if isStopRequired then 0 else m.plannerParam.decelVelocity
    let path := iutil.setVelocityFrom c.stopLineIdx v c.path
    if isStopRequired then
      let stopPointPose := (← atIndex path.points c.stopLineIdx.toNat).pose
      let _judgePointPose := (← atIndex path.points c.passJudgeLineIdx.toNat).pose
      let stopFactor : StopFactor :=
        ⟨stopPointPose, toRosPoints conflictingTargets ++ toRosPoints stuckTargets⟩
      return (true, path, appendStopReason stopFactor initializeStopReason)
    return (true, path, initializeStopReason)
  return (true, c.path, initializeStopReason)

/-- Lines 139-209 of `modifyPathVelocity`: the latch, the collision and stuck-vehicle checks, the
request to the state machine and the decision. -/
def decideCycle (m : Members) (c : CyclePlan) :
    Except Fault (Bool × PathWithLaneId × StopReason × Members) := do
  if m.stateMachine.getState = .GO ∧ c.isOverPassJudgeLine = true ∧ c.externalStop = false then
    return (true, c.path, initializeStopReason, m)
  let (hasCollision, conflictingTargets) ← checkCollision g cm util pd m.laneId m.plannerParam c.path
    c.detectionAreas c.detectionAreaLaneletIds pd.dynamicObjects c.closestIdx now
  let (isStuck, stuckTargets) ← checkStuckVehicleInIntersection g pd m.laneId m.plannerParam c.path
    c.closestIdx c.stopLineIdx.toNat pd.dynamicObjects
  let m := m.setStateWithMarginTime
    (if isEntryProhibited c hasCollision isStuck then .STOP else .GO) now
  let (ret, path, stopReason) ← writeDecision iutil m c isStuck conflictingTargets stuckTargets
  return (ret, path, stopReason, m)

/-- `IntersectionModule::modifyPathVelocity`; `now` is the clock reading of the cycle. Returns the
return value, the path, the stop reason and the members after the cycle. -/
def modifyPathVelocity (m : Members) (path : PathWithLaneId) :
    Except Fault (Bool × PathWithLaneId × StopReason × Members) := do
  match ← prepareCycle iutil pd now m.laneId m.plannerParam path with
  | .inl (ret, path) => return (ret, path, initializeStopReason, m)
  | .inr c => decideCycle g cm util iutil pd now m c

/-- The request a cycle makes of the state machine at line 166, at its clock reading: none when it
returns before the latch or at it, and otherwise STOP exactly when the entry is prohibited. -/
def cycleRequest (m : Members) (path : PathWithLaneId) : Except Fault (Option State) := do
  match ← prepareCycle iutil pd now m.laneId m.plannerParam path with
  | .inl _ => return none
  | .inr c =>
    if m.stateMachine.getState = .GO ∧ c.isOverPassJudgeLine = true ∧ c.externalStop = false then
      return none
    let (hasCollision, _) ← checkCollision g cm util pd m.laneId m.plannerParam c.path
      c.detectionAreas c.detectionAreaLaneletIds pd.dynamicObjects c.closestIdx now
    let (isStuck, _) ← checkStuckVehicleInIntersection g pd m.laneId m.plannerParam c.path
      c.closestIdx c.stopLineIdx.toNat pd.dynamicObjects
    return some (if isEntryProhibited c hasCollision isStuck then .STOP else .GO)

theorem writeDecision_GO {m : Members} (h : m.stateMachine.getState = .GO) (c : CyclePlan)
    (isStuck : Bool) (conflictingTargets stuckTargets : List DynamicObject) :
    writeDecision iutil m c isStuck conflictingTargets stuckTargets =
      .ok (true, c.path, initializeStopReason) := by
  simp [writeDecision, h, bind, Except.bind, pure, Except.pure]

/-- What a decision can do: return at the latch, or run both checks, request a state, and write
the decision of the machine after the request. -/
theorem decideCycle_cases {m : Members} {c : CyclePlan}
    {r : Bool × PathWithLaneId × StopReason × Members}
    (h : decideCycle g cm util iutil pd now m c = .ok r) :
    (m.stateMachine.getState = .GO ∧ c.isOverPassJudgeLine = true ∧ c.externalStop = false ∧
      r = (true, c.path, initializeStopReason, m)) ∨
    ∃ hasCollision conflictingTargets isStuck stuckTargets written,
      ¬(m.stateMachine.getState = .GO ∧ c.isOverPassJudgeLine = true ∧ c.externalStop = false) ∧
      checkCollision g cm util pd m.laneId m.plannerParam c.path c.detectionAreas
        c.detectionAreaLaneletIds pd.dynamicObjects c.closestIdx now =
        .ok (hasCollision, conflictingTargets) ∧
      checkStuckVehicleInIntersection g pd m.laneId m.plannerParam c.path c.closestIdx
        c.stopLineIdx.toNat pd.dynamicObjects = .ok (isStuck, stuckTargets) ∧
      let m' := m.setStateWithMarginTime
        (if isEntryProhibited c hasCollision isStuck then .STOP else .GO) now
      writeDecision iutil m' c isStuck conflictingTargets stuckTargets = .ok written ∧
      r = (written.1, written.2.1, written.2.2, m') := by
  unfold decideCycle at h
  split_ifs at h with hlatch
  · exact .inl ⟨hlatch.1, hlatch.2.1, hlatch.2.2, (Except.ok.inj h).symm⟩
  · right
    simp only [bind, Except.bind, pure, Except.pure] at h
    rcases hcol : checkCollision g cm util pd m.laneId m.plannerParam c.path c.detectionAreas
      c.detectionAreaLaneletIds pd.dynamicObjects c.closestIdx now with e | ⟨hasCollision, ct⟩ <;>
      simp only [hcol] at h
    · cases h
    rcases hst : checkStuckVehicleInIntersection g pd m.laneId m.plannerParam c.path c.closestIdx
      c.stopLineIdx.toNat pd.dynamicObjects with e | ⟨isStuck, stt⟩ <;> simp only [hst] at h
    · cases h
    rcases hw : writeDecision iutil (m.setStateWithMarginTime
      (if isEntryProhibited c hasCollision isStuck then .STOP else .GO) now) c isStuck ct stt with
      e | written <;> simp only [hw] at h
    · cases h
    exact ⟨hasCollision, ct, isStuck, stt, written, hlatch, rfl, rfl, hw, (Except.ok.inj h).symm⟩

theorem decideCycle_idem {m : Members} (hm : 0 ≤ m.plannerParam.stateTransitMarginTime)
    {c : CyclePlan} {r : Bool × PathWithLaneId × StopReason × Members}
    (h : decideCycle g cm util iutil pd now m c = .ok r) :
    decideCycle g cm util iutil pd now r.2.2.2 c = .ok r := by
  rcases decideCycle_cases g cm util iutil pd now h with ⟨-, -, -, rfl⟩ | ⟨hasCollision, ct, isStuck,
    stt, written, -, hcol, hst, hw, rfl⟩
  · exact h
  · set m' := m.setStateWithMarginTime
      (if isEntryProhibited c hasCollision isStuck then .STOP else .GO) now
    unfold decideCycle
    split_ifs with hlatch
    · rw [writeDecision_GO iutil hlatch.1] at hw
      cases hw
      rfl
    · simp only [m', Members.setStateWithMarginTime_laneId, Members.setStateWithMarginTime_plannerParam,
        hcol, hst, bind, Except.bind, Members.setStateWithMarginTime_idem hm, hw, pure, Except.pure]

theorem modifyPathVelocity_request {m : Members} {path : PathWithLaneId}
    {r : Bool × PathWithLaneId × StopReason × Members}
    (h : modifyPathVelocity g cm util iutil pd now m path = .ok r) :
    ∃ req, cycleRequest g cm util iutil pd now m path = .ok req ∧
      r.2.2.2 = req.elim m (m.setStateWithMarginTime · now) := by
  obtain ⟨p, hp, h⟩ := bind_eq_ok h
  rcases p with ⟨ret, p⟩ | c
  · cases h
    exact ⟨none, by simp [cycleRequest, hp, bind, Except.bind, pure, Except.pure], rfl⟩
  · rcases decideCycle_cases g cm util iutil pd now h with ⟨hgo, hover, hext, rfl⟩ |
      ⟨hasCollision, ct, isStuck, st, written, hlatch, hcol, hst, -, rfl⟩
    · exact ⟨none, by simp [cycleRequest, hp, hgo, hover, hext, bind, Except.bind, pure, Except.pure],
        rfl⟩
    · exact ⟨some _, by simp [cycleRequest, hp, hlatch, hcol, hst, bind, Except.bind, pure, Except.pure],
        rfl⟩

theorem modifyPathVelocity_static {m : Members} {path : PathWithLaneId}
    {r : Bool × PathWithLaneId × StopReason × Members}
    (h : modifyPathVelocity g cm util iutil pd now m path = .ok r) :
    r.2.2.2.laneId = m.laneId ∧ r.2.2.2.plannerParam = m.plannerParam := by
  obtain ⟨req, -, e⟩ := modifyPathVelocity_request g cm util iutil pd now h
  cases req <;> rw [e] <;> exact ⟨rfl, rfl⟩

theorem modifyPathVelocity_latched {m : Members} {path : PathWithLaneId}
    {r : Bool × PathWithLaneId × StopReason × Members} (hgo : m.stateMachine.getState = .GO)
    (hover : ∀ c, prepareCycle iutil pd now m.laneId m.plannerParam path = .ok (.inr c) →
      c.isOverPassJudgeLine = true ∧ c.externalStop = false)
    (h : modifyPathVelocity g cm util iutil pd now m path = .ok r) :
    r.2.2.2 = m ∧ r.2.2.1 = initializeStopReason := by
  simp only [modifyPathVelocity, bind, Except.bind] at h
  rcases hp : prepareCycle iutil pd now m.laneId m.plannerParam path with e | (⟨ret, p⟩ | c) <;>
    simp only [hp, pure, Except.pure] at h
  · cases h
  · cases h; exact ⟨rfl, rfl⟩
  · rcases decideCycle_cases g cm util iutil pd now h with ⟨-, -, -, rfl⟩ | ⟨_, _, _, _, _, hlatch, -⟩
    · exact ⟨rfl, rfl⟩
    · exact absurd ⟨hgo, hover c hp⟩ hlatch

/-- **External STOP takes effect at once.** A cycle that reaches its plan while a fresh external
STOP status is present ends with the machine in STOP, whatever the state of the machine, the
checks and the position of the vehicle: no fresh external GO comes with it, and the latch at the
pass judge line yields to it. -/
theorem modifyPathVelocity_externalStop {m : Members} {path : PathWithLaneId} {c : CyclePlan}
    {r : Bool × PathWithLaneId × StopReason × Members}
    (hstop : isTargetExternalInputStatus pd m.plannerParam now IntersectionStatus.STOP = true)
    (hplan : prepareCycle iutil pd now m.laneId m.plannerParam path = .ok (.inr c))
    (h : modifyPathVelocity g cm util iutil pd now m path = .ok r) :
    r.2.2.2.stateMachine.getState = .STOP := by
  obtain ⟨hgo', hstop'⟩ := prepareCycle_externals iutil pd now hplan
  rw [isTargetExternalInputStatus_GO_of_STOP pd _ now hstop] at hgo'
  rw [hstop] at hstop'
  simp only [modifyPathVelocity, hplan, bind, Except.bind] at h
  rcases decideCycle_cases g cm util iutil pd now h with ⟨-, -, hlatch, -⟩ |
    ⟨_, _, _, _, _, -, -, -, -, rfl⟩
  · rw [hstop'] at hlatch; cases hlatch
  · simp [isEntryProhibited, hgo', hstop', StateMachine.setStateWithMarginTime_STOP,
      StateMachine.getState]

/-- **Idempotence of a cycle.** For every snapshot, clock reading, input path and state of the
machine, with `state_transit_margin_time ≥ 0`: a second cycle on the same input, from the members
the first one left, returns the same value, path, stop reason and members as the first. -/
theorem modifyPathVelocity_idempotent {m : Members} (hm : 0 ≤ m.plannerParam.stateTransitMarginTime)
    (path : PathWithLaneId) :
    (modifyPathVelocity g cm util iutil pd now m path).bind
        (fun r => modifyPathVelocity g cm util iutil pd now r.2.2.2 path) =
      modifyPathVelocity g cm util iutil pd now m path := by
  rcases hr : modifyPathVelocity g cm util iutil pd now m path with e | r
  · rfl
  obtain ⟨hlane, hparam⟩ := modifyPathVelocity_static g cm util iutil pd now hr
  simp only [Except.bind]
  simp only [modifyPathVelocity, bind, Except.bind] at hr ⊢
  rw [hlane, hparam]
  rcases hp : prepareCycle iutil pd now m.laneId m.plannerParam path with e | (⟨ret, p⟩ | c) <;>
    simp only [hp, pure, Except.pure] at hr ⊢
  · cases hr
  · cases hr; rfl
  · exact decideCycle_idem g cm util iutil pd now hm hr

end

end IntersectionModule

namespace Crossing

/-- The helpers on the crossing. Lanelets 20 and 21 are the conflicting and the detection
lanelets, one lanelet a group; the stop line and the pass judge line are the path point at
`x = 10`, the last one before the intersection lanelet, which the path already has; the closest
point is the first one less than 5 m behind the vehicle; and `setVelocityFrom` caps the velocity
from the stop line on. -/
def intersectionUtil : IntersectionUtil where
  getObjectiveLanelets _ _ := ([[20], [21]], [[20], [21]])
  getPolygon3dFromLaneletsVec groups _ := groups.map fun group =>
    match group.head?.bind fun id => lanelets.find? (·.id == id) with
    | some l => l.box.toPolygon
    | none => ⟨[]⟩
  getLaneletIdsFromLaneletsVec groups := groups.flatten
  generateStopLine _ _ _ path := (true, path, 1, 1, 2)
  calcClosestIndex path pose :=
    let i := path.points.findIdx fun p => pose.position.x < p.pose.position.x + 5
    if i < path.points.length then some i else none
  isAheadOf target origin := decide (origin.position.x < target.position.x)
  setVelocityFrom idx v path := ⟨path.points.enum.map fun (i, p) =>
    if idx ≤ i then { p with velocity := min p.velocity v } else p⟩

end Crossing

namespace IntersectionModule

open Crossing in
theorem modifyPathVelocity_idempotent_carAt30 :
    let m : Members := ⟨1, param, "left", false, ⟨.GO, none, 1⟩, rfl⟩
    let cycle := modifyPathVelocity .axisAligned CMath.ratSqrt (Util.grid CMath.ratSqrt)
      intersectionUtil (plannerData 0 [carAt30]) ⟨0⟩
    0 ≤ m.plannerParam.stateTransitMarginTime ∧
      (cycle m path).bind (fun r => cycle r.2.2.2 path) = cycle m path :=
  ⟨by norm_num [param], modifyPathVelocity_idempotent _ _ _ _ _ _ (by norm_num [param]) _⟩

open Crossing in
theorem modifyPathVelocity_externalStop_crossing :
    let m : Members := ⟨1, param, "left", false, ⟨.GO, none, 1⟩, rfl⟩
    let pd : PlannerData :=
      { plannerData 30 [] with externalIntersectionStatusInput := some ⟨IntersectionStatus.STOP, ⟨0⟩⟩ }
    ∃ c r, (isTargetExternalInputStatus pd m.plannerParam ⟨0⟩ IntersectionStatus.STOP = true ∧
      prepareCycle intersectionUtil pd ⟨0⟩ m.laneId m.plannerParam path = .ok (.inr c) ∧
      modifyPathVelocity .axisAligned CMath.ratSqrt (Util.grid CMath.ratSqrt) intersectionUtil pd ⟨0⟩
        m path = .ok r) ∧
    r.2.2.2.stateMachine.getState = .STOP := by
  intro m pd
  obtain ⟨plan, hplan, hright⟩ := exists_of_map_eq_ok (show
    (prepareCycle intersectionUtil pd ⟨0⟩ m.laneId m.plannerParam path).map Sum.isRight = .ok true by
    with_unfolding_all decide)
  obtain ⟨c, rfl⟩ := Sum.isRight_iff.mp hright
  obtain ⟨r, hr, -⟩ := exists_of_map_eq_ok (show
    (modifyPathVelocity .axisAligned CMath.ratSqrt (Util.grid CMath.ratSqrt) intersectionUtil pd ⟨0⟩
      m path).map (fun _ => true) = .ok true by with_unfolding_all decide)
  have hstop : isTargetExternalInputStatus pd m.plannerParam ⟨0⟩ IntersectionStatus.STOP = true := by
    with_unfolding_all decide
  exact ⟨c, r, ⟨hstop, hplan, hr⟩, modifyPathVelocity_externalStop _ _ _ _ _ _ hstop hplan hr⟩

end IntersectionModule
end BehaviorVelocityPlanner
