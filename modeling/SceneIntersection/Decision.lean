import SceneIntersection.Cycles

/-!
# What the checks decide, in a cycle and over a run

A cycle that gets past the pass judge line latch runs the collision and the stuck-vehicle checks
and asks the state machine for STOP exactly when the entry is prohibited (`isEntryProhibited`). A
STOP request is never debounced, so:

* `modifyPathVelocity_decision`: in a checked cycle a prohibited entry ends in STOP in that cycle,
  with the stop velocity written from the stop line and, when a stop is required, one stop factor
  at the stop line listing the conflicting and the stuck objects; a cycle that ends in GO found the
  entry clear and leaves the path as the plan has it, with no stop factor.
* `runCycles_stop_persists`: a module in STOP stays in STOP over every run whose cycles prohibit
  the entry whenever they reach the checks; the latch, which needs GO, never applies.
* `runCycles_release`: from STOP with no pending timer, over a run whose cycles all run the checks
  and find the entry clear, the module ends in GO exactly when a cycle after the first comes more
  than `state_transit_margin_time` after it: the module releases a stop at the first cycle past
  the margin, and not before.

`ChecksDecide` says what the checks of a plan give; the per-cycle lemmas
`modifyPathVelocity_of_prohibited` and `modifyPathVelocity_of_clear` are all the run lemmas use.
-/

namespace BehaviorVelocityPlanner
namespace IntersectionModule

section
variable (g : Geometry) (cm : CMath) (util : Util) (iutil : IntersectionUtil)

/-- The checks of the cycle with plan `c`, for the lane `laneId` and the parameters `param`, decide
`prohibited`: whatever the collision and the stuck-vehicle checks return without a fault, the entry
is prohibited exactly when `prohibited` is. -/
def ChecksDecide (pd : PlannerData) (now : Time) (laneId : LaneId) (param : PlannerParam)
    (c : CyclePlan) (prohibited : Bool) : Prop :=
  ∀ hasCollision conflictingTargets isStuck stuckTargets,
    checkCollision g cm util pd laneId param c.path c.detectionAreas c.detectionAreaLaneletIds
      pd.dynamicObjects c.closestIdx now = .ok (hasCollision, conflictingTargets) →
    checkStuckVehicleInIntersection g pd laneId param c.path c.closestIdx c.stopLineIdx.toNat
      pd.dynamicObjects = .ok (isStuck, stuckTargets) →
    isEntryProhibited c hasCollision isStuck = prohibited

variable {pd : PlannerData} {now : Time}

theorem checksDecide_of_map {laneId : LaneId} {param : PlannerParam} {c : CyclePlan}
    (hasCollision isStuck : Bool)
    (hcol : (checkCollision g cm util pd laneId param c.path c.detectionAreas
      c.detectionAreaLaneletIds pd.dynamicObjects c.closestIdx now).map (·.1) = .ok hasCollision)
    (hst : (checkStuckVehicleInIntersection g pd laneId param c.path c.closestIdx c.stopLineIdx.toNat
      pd.dynamicObjects).map (·.1) = .ok isStuck) :
    ChecksDecide g cm util pd now laneId param c (isEntryProhibited c hasCollision isStuck) := by
  intro _ _ _ _ hcol' hst'
  cases hcol' ▸ hcol
  cases hst' ▸ hst
  rfl

theorem writeDecision_STOP {m : Members} (h : m.stateMachine.getState = .STOP) {c : CyclePlan}
    {isStuck : Bool} {conflictingTargets stuckTargets : List DynamicObject}
    {written : Bool × PathWithLaneId × StopReason}
    (hw : writeDecision iutil m c isStuck conflictingTargets stuckTargets = .ok written) :
    let isStopRequired := isStuck || !m.hasTrafficLight || m.turnDirection != "straight"
    let path := iutil.setVelocityFrom c.stopLineIdx
      (if isStopRequired then 0 else m.plannerParam.decelVelocity) c.path
    written.1 = true ∧ written.2.1 = path ∧
      (isStopRequired = true → ∃ p, atIndex path.points c.stopLineIdx.toNat = .ok p ∧
        written.2.2 = appendStopReason
          ⟨p.pose, toRosPoints conflictingTargets ++ toRosPoints stuckTargets⟩ initializeStopReason) ∧
      (isStopRequired = false → written.2.2 = initializeStopReason) := by
  simp only [writeDecision, h, if_true] at hw ⊢
  cases hreq : (isStuck || !m.hasTrafficLight || m.turnDirection != "straight")
  · simp only [hreq, Bool.false_eq_true, if_false] at hw ⊢
    cases hw
    simp
  · simp only [hreq, if_true] at hw ⊢
    obtain ⟨p, hp, hw⟩ := bind_eq_ok hw
    obtain ⟨_, -, hw⟩ := bind_eq_ok hw
    cases hw
    exact ⟨rfl, rfl, fun _ => ⟨p, hp, rfl⟩, nofun⟩

theorem modifyPathVelocity_of_plan {m : Members} {path : PathWithLaneId} {c : CyclePlan}
    {r : Bool × PathWithLaneId × StopReason × Members}
    (hplan : prepareCycle iutil pd now m.laneId m.plannerParam path = .ok (.inr c))
    (h : modifyPathVelocity g cm util iutil pd now m path = .ok r) :
    (m.stateMachine.getState = .GO ∧ c.isOverPassJudgeLine = true ∧ c.externalStop = false ∧
      r = (true, c.path, initializeStopReason, m)) ∨
    ∃ hasCollision conflictingTargets isStuck stuckTargets written,
      checkCollision g cm util pd m.laneId m.plannerParam c.path c.detectionAreas
          c.detectionAreaLaneletIds pd.dynamicObjects c.closestIdx now =
        .ok (hasCollision, conflictingTargets) ∧
      checkStuckVehicleInIntersection g pd m.laneId m.plannerParam c.path c.closestIdx
          c.stopLineIdx.toNat pd.dynamicObjects = .ok (isStuck, stuckTargets) ∧
      let m' := m.setStateWithMarginTime
        (if isEntryProhibited c hasCollision isStuck then .STOP else .GO) now
      writeDecision iutil m' c isStuck conflictingTargets stuckTargets = .ok written ∧
      r = (written.1, written.2.1, written.2.2, m') := by
  simp only [modifyPathVelocity, hplan, bind, Except.bind] at h
  rcases decideCycle_cases g cm util iutil pd now h with hlatch |
    ⟨hasCollision, ct, isStuck, st, written, -, hcol, hst, hw, hr⟩
  · exact .inl hlatch
  · exact .inr ⟨hasCollision, ct, isStuck, st, written, hcol, hst, hw, hr⟩

theorem modifyPathVelocity_of_prohibited {m : Members} {path : PathWithLaneId} {c : CyclePlan}
    {r : Bool × PathWithLaneId × StopReason × Members}
    (hplan : prepareCycle iutil pd now m.laneId m.plannerParam path = .ok (.inr c))
    (hdec : ChecksDecide g cm util pd now m.laneId m.plannerParam c true)
    (h : modifyPathVelocity g cm util iutil pd now m path = .ok r) :
    (m.stateMachine.getState = .GO ∧ r.2.2.2 = m) ∨ r.2.2.2.stateMachine.getState = .STOP := by
  rcases modifyPathVelocity_of_plan g cm util iutil hplan h with ⟨hgo, -, -, rfl⟩ |
    ⟨hasCollision, ct, isStuck, st, written, hcol, hst, -, rfl⟩
  · exact .inl ⟨hgo, rfl⟩
  · right
    simp [hdec _ _ _ _ hcol hst, StateMachine.setStateWithMarginTime_STOP, StateMachine.getState]

theorem modifyPathVelocity_of_clear {m : Members} {path : PathWithLaneId} {c : CyclePlan}
    {r : Bool × PathWithLaneId × StopReason × Members}
    (hplan : prepareCycle iutil pd now m.laneId m.plannerParam path = .ok (.inr c))
    (hdec : ChecksDecide g cm util pd now m.laneId m.plannerParam c false)
    (h : modifyPathVelocity g cm util iutil pd now m path = .ok r) :
    (m.stateMachine.getState = .GO ∧ r.2.2.2 = m) ∨ r.2.2.2 = m.setStateWithMarginTime .GO now := by
  rcases modifyPathVelocity_of_plan g cm util iutil hplan h with ⟨hgo, -, -, rfl⟩ |
    ⟨hasCollision, ct, isStuck, st, written, hcol, hst, -, rfl⟩
  · exact .inl ⟨hgo, rfl⟩
  · right
    simp [hdec _ _ _ _ hcol hst]

/-- **The decision of a checked cycle.** For every cycle that reaches its plan `c`: either it
returns at the latch (GO, over the pass judge line, no external STOP) and leaves everything as it
is, or both checks run and
* when they prohibit the entry (a collision or a stuck vehicle with no external GO, or an external
  STOP), the module ends in STOP in this cycle, the cycle returns `true`, the path is the plan's
  path with the stop velocity from the stop line (0 when a stop is required: a stuck vehicle, no
  traffic light or a turn; the decel velocity otherwise), and the stop reason has one stop factor,
  at the stop line of that path with the points of the conflicting and the stuck objects, when a
  stop is required, and none otherwise;
* when the module ends in GO, the checks found the entry clear, and the cycle returns `true`, the
  plan's path and no stop factor. -/
theorem modifyPathVelocity_decision {m : Members} {path : PathWithLaneId} {c : CyclePlan}
    {r : Bool × PathWithLaneId × StopReason × Members}
    (hplan : prepareCycle iutil pd now m.laneId m.plannerParam path = .ok (.inr c))
    (h : modifyPathVelocity g cm util iutil pd now m path = .ok r) :
    (m.stateMachine.getState = .GO ∧ c.isOverPassJudgeLine = true ∧ c.externalStop = false ∧
      r = (true, c.path, initializeStopReason, m)) ∨
    ∃ hasCollision conflictingTargets isStuck stuckTargets,
      checkCollision g cm util pd m.laneId m.plannerParam c.path c.detectionAreas
          c.detectionAreaLaneletIds pd.dynamicObjects c.closestIdx now =
        .ok (hasCollision, conflictingTargets) ∧
      checkStuckVehicleInIntersection g pd m.laneId m.plannerParam c.path c.closestIdx
          c.stopLineIdx.toNat pd.dynamicObjects = .ok (isStuck, stuckTargets) ∧
      (isEntryProhibited c hasCollision isStuck = true →
        let isStopRequired := isStuck || !m.hasTrafficLight || m.turnDirection != "straight"
        let written := iutil.setVelocityFrom c.stopLineIdx
          (if isStopRequired then 0 else m.plannerParam.decelVelocity) c.path
        r.2.2.2.stateMachine.getState = .STOP ∧ r.1 = true ∧ r.2.1 = written ∧
          (isStopRequired = true → ∃ p, atIndex written.points c.stopLineIdx.toNat = .ok p ∧
            r.2.2.1 = appendStopReason
              ⟨p.pose, toRosPoints conflictingTargets ++ toRosPoints stuckTargets⟩
              initializeStopReason) ∧
          (isStopRequired = false → r.2.2.1 = initializeStopReason)) ∧
      (r.2.2.2.stateMachine.getState = .GO →
        isEntryProhibited c hasCollision isStuck = false ∧ r.1 = true ∧ r.2.1 = c.path ∧
          r.2.2.1 = initializeStopReason) := by
  rcases modifyPathVelocity_of_plan g cm util iutil hplan h with hlatch |
    ⟨hasCollision, ct, isStuck, st, written, hcol, hst, hw, rfl⟩
  · exact .inl hlatch
  refine .inr ⟨hasCollision, ct, isStuck, st, hcol, hst, fun hpro => ?_, fun hgo => ?_⟩
  · -- a STOP request is never debounced
    have hstop : (m.setStateWithMarginTime .STOP now).stateMachine.getState = .STOP := by
      simp [StateMachine.setStateWithMarginTime_STOP, StateMachine.getState]
    simp only [hpro, if_true] at hw ⊢
    exact ⟨hstop, writeDecision_STOP iutil hstop hw⟩
  · -- the machine ends in GO only after a GO request, and out of STOP nothing is written
    cases hpro : isEntryProhibited c hasCollision isStuck
    · rw [hpro] at hw hgo
      rw [writeDecision_GO iutil hgo] at hw
      cases hw
      exact ⟨rfl, rfl, rfl, rfl⟩
    · rw [hpro] at hgo
      simp [StateMachine.setStateWithMarginTime_STOP, StateMachine.getState] at hgo

/-- **A stop persists while the entry is prohibited.** For every run of cycles from a module in
STOP whose every cycle that reaches a plan finds the entry prohibited by its checks, the module is
in STOP after the run: a STOP request keeps it there, a cycle that returns before its plan leaves
it, and the latch, which needs GO, never applies. -/
theorem runCycles_stop_persists {m : Members} (hstop : m.stateMachine.getState = .STOP)
    {inputs : List CycleInput}
    (hprohibited : ∀ c ∈ inputs, ∀ plan,
      prepareCycle iutil c.plannerData c.now m.laneId m.plannerParam c.path = .ok (.inr plan) →
        ChecksDecide g cm util c.plannerData c.now m.laneId m.plannerParam plan true)
    {outs : List (Bool × PathWithLaneId × StopReason)} {m' : Members}
    (h : runCycles g cm util iutil m inputs = .ok (outs, m')) :
    m'.stateMachine.getState = .STOP := by
  induction inputs generalizing m outs with
  | nil =>
    obtain ⟨-, rfl⟩ := runCycles_nil g cm util iutil h
    exact hstop
  | cons c cs ih =>
    obtain ⟨r, outs', hc, hcs, -⟩ := runCycles_cons g cm util iutil h
    obtain ⟨hlane, hparam⟩ := modifyPathVelocity_static g cm util iutil _ _ hc
    -- one cycle keeps the module in STOP
    have hstop' : r.2.2.2.stateMachine.getState = .STOP := by
      rcases hp : prepareCycle iutil c.plannerData c.now m.laneId m.plannerParam c.path with
        e | (⟨ret, p⟩ | plan)
      · simp [modifyPathVelocity, hp, bind, Except.bind] at hc
      · simp only [modifyPathVelocity, hp, bind, Except.bind, pure, Except.pure] at hc
        cases hc
        exact hstop
      · rcases modifyPathVelocity_of_prohibited g cm util iutil hp
          (hprohibited c (List.mem_cons_self _ _) plan hp) hc with ⟨hgo, -⟩ | hstop'
        · rw [hstop] at hgo; cases hgo
        · exact hstop'
    refine ih hstop' (fun c' hc' plan hp => ?_) hcs
    rw [hlane, hparam] at hp ⊢
    exact hprohibited c' (List.mem_cons_of_mem _ hc') plan hp

theorem runCycles_clear_go_iff {m : Members} {s : Time}
    (hm : (m.stateMachine.getState = .STOP ∧ m.stateMachine.startTime = some s) ∨
      m.stateMachine.getState = .GO)
    {inputs : List CycleInput}
    (hclear : ∀ c ∈ inputs, ∃ plan,
      prepareCycle iutil c.plannerData c.now m.laneId m.plannerParam c.path = .ok (.inr plan) ∧
        ChecksDecide g cm util c.plannerData c.now m.laneId m.plannerParam plan false)
    {outs : List (Bool × PathWithLaneId × StopReason)} {m' : Members}
    (h : runCycles g cm util iutil m inputs = .ok (outs, m')) :
    m'.stateMachine.getState = .GO ↔ m.stateMachine.getState = .GO ∨
      ∃ c ∈ inputs, (c.now - s).seconds > m.plannerParam.stateTransitMarginTime := by
  induction inputs generalizing m outs with
  | nil =>
    obtain ⟨-, rfl⟩ := runCycles_nil g cm util iutil h
    simp
  | cons c cs ih =>
    obtain ⟨r, outs', hc, hcs, -⟩ := runCycles_cons g cm util iutil h
    obtain ⟨hlane, hparam⟩ := modifyPathVelocity_static g cm util iutil _ _ hc
    obtain ⟨plan, hp, hdec⟩ := hclear c (List.mem_cons_self _ _)
    have hclear' : ∀ c' ∈ cs, ∃ plan, prepareCycle iutil c'.plannerData c'.now r.2.2.2.laneId
        r.2.2.2.plannerParam c'.path = .ok (.inr plan) ∧ ChecksDecide g cm util c'.plannerData c'.now
          r.2.2.2.laneId r.2.2.2.plannerParam plan false := by
      rw [hlane, hparam]
      exact fun c' hc' => hclear c' (List.mem_cons_of_mem _ hc')
    have hmargin := m.margin_eq
    rcases modifyPathVelocity_of_clear g cm util iutil hp hdec hc with ⟨hgo, hr⟩ | hr
    · -- at the latch: the module stays in GO
      have := (ih (.inr (hr ▸ hgo)) hclear' hcs).mpr (.inl (hr ▸ hgo))
      simp [this, hgo]
    rcases hm with ⟨hstop, hs⟩ | hgo
    · -- in STOP with the timer at `s`: GO once the clock is past the margin, else no change
      have hstep := StateMachine.setStateWithMarginTime_GO_some (t := c.now) hstop hs
      by_cases hgt : (c.now - s).seconds > m.plannerParam.stateTransitMarginTime
      · rw [if_pos (hmargin ▸ hgt)] at hstep
        have hgo' : r.2.2.2.stateMachine.getState = .GO := by
          simp [hr, hstep, StateMachine.getState]
        have := (ih (.inr hgo') hclear' hcs).mpr (.inl hgo')
        exact ⟨fun _ => .inr ⟨c, List.mem_cons_self _ _, hgt⟩, fun _ => this⟩
      · rw [if_neg (hmargin ▸ hgt)] at hstep
        have hsm : r.2.2.2.stateMachine = m.stateMachine := by simp [hr, hstep]
        rw [ih (.inl ⟨hsm ▸ hstop, hsm ▸ hs⟩) hclear' hcs, hparam, hsm]
        simp [hgt]
    · -- in GO a GO request keeps GO
      have hgo' : r.2.2.2.stateMachine.getState = .GO := by
        simpa [hr, StateMachine.setStateWithMarginTime_self hgo, StateMachine.getState] using hgo
      have := (ih (.inr hgo') hclear' hcs).mpr (.inl hgo')
      simp [this, hgo]

/-- **Release of a stop.** For every run of cycles from a module in STOP with no pending timer,
whose cycles all run the checks and find the entry clear, the module ends in GO exactly when some
cycle after the first comes more than `state_transit_margin_time` after the first: the first
cycle starts the timer, and the first later cycle past the margin moves the module to GO, where
it stays. -/
theorem runCycles_release {m : Members} (hstop : m.stateMachine.getState = .STOP)
    (hnone : m.stateMachine.startTime = none) {c₀ : CycleInput} {cs : List CycleInput}
    (hclear : ∀ c ∈ c₀ :: cs, ∃ plan,
      prepareCycle iutil c.plannerData c.now m.laneId m.plannerParam c.path = .ok (.inr plan) ∧
        ChecksDecide g cm util c.plannerData c.now m.laneId m.plannerParam plan false)
    {outs : List (Bool × PathWithLaneId × StopReason)} {m' : Members}
    (h : runCycles g cm util iutil m (c₀ :: cs) = .ok (outs, m')) :
    m'.stateMachine.getState = .GO ↔
      ∃ c ∈ cs, (c.now - c₀.now).seconds > m.plannerParam.stateTransitMarginTime := by
  obtain ⟨r, outs', hc, hcs, -⟩ := runCycles_cons g cm util iutil h
  obtain ⟨hlane, hparam⟩ := modifyPathVelocity_static g cm util iutil _ _ hc
  obtain ⟨plan, hp, hdec⟩ := hclear c₀ (List.mem_cons_self _ _)
  -- the first cycle, in STOP, cannot be latched: it starts the timer at `c₀.now`
  have hr : r.2.2.2 = m.setStateWithMarginTime .GO c₀.now := by
    rcases modifyPathVelocity_of_clear g cm util iutil hp hdec hc with ⟨hgo, -⟩ | hr
    · rw [hstop] at hgo; cases hgo
    · exact hr
  have hsm : r.2.2.2.stateMachine = { m.stateMachine with startTime := some c₀.now } := by
    rw [hr, Members.setStateWithMarginTime_stateMachine,
      StateMachine.setStateWithMarginTime_GO_none hstop hnone]
  have hclear' : ∀ c ∈ cs, ∃ plan, prepareCycle iutil c.plannerData c.now r.2.2.2.laneId
      r.2.2.2.plannerParam c.path = .ok (.inr plan) ∧ ChecksDecide g cm util c.plannerData c.now
        r.2.2.2.laneId r.2.2.2.plannerParam plan false := by
    rw [hlane, hparam]
    exact fun c hc => hclear c (List.mem_cons_of_mem _ hc)
  have hstart : r.2.2.2.stateMachine.getState = .STOP ∧
      r.2.2.2.stateMachine.startTime = some c₀.now := by
    rw [hsm]; exact ⟨hstop, rfl⟩
  rw [runCycles_clear_go_iff g cm util iutil (.inl hstart) hclear' hcs, hparam, hstart.1]
  simp

end

open Crossing in
theorem modifyPathVelocity_decision_carAt30 :
    let m : Members := ⟨1, param, "left", false, ⟨.GO, none, 1⟩, rfl⟩
    let pd := plannerData 0 [carAt30]
    let g := Geometry.axisAligned
    let cm := CMath.ratSqrt
    let util := Util.grid CMath.ratSqrt
    let iutil := intersectionUtil
    let now : Time := ⟨0⟩
    ∃ c r, (prepareCycle iutil pd now m.laneId m.plannerParam path = .ok (.inr c) ∧
      modifyPathVelocity g cm util iutil pd now m path = .ok r) ∧
    ((m.stateMachine.getState = .GO ∧ c.isOverPassJudgeLine = true ∧ c.externalStop = false ∧
      r = (true, c.path, initializeStopReason, m)) ∨
    ∃ hasCollision conflictingTargets isStuck stuckTargets,
      checkCollision g cm util pd m.laneId m.plannerParam c.path c.detectionAreas
          c.detectionAreaLaneletIds pd.dynamicObjects c.closestIdx now =
        .ok (hasCollision, conflictingTargets) ∧
      checkStuckVehicleInIntersection g pd m.laneId m.plannerParam c.path c.closestIdx
          c.stopLineIdx.toNat pd.dynamicObjects = .ok (isStuck, stuckTargets) ∧
      (isEntryProhibited c hasCollision isStuck = true →
        let isStopRequired := isStuck || !m.hasTrafficLight || m.turnDirection != "straight"
        let written := iutil.setVelocityFrom c.stopLineIdx
          (if isStopRequired then 0 else m.plannerParam.decelVelocity) c.path
        r.2.2.2.stateMachine.getState = .STOP ∧ r.1 = true ∧ r.2.1 = written ∧
          (isStopRequired = true → ∃ p, atIndex written.points c.stopLineIdx.toNat = .ok p ∧
            r.2.2.1 = appendStopReason
              ⟨p.pose, toRosPoints conflictingTargets ++ toRosPoints stuckTargets⟩
              initializeStopReason) ∧
          (isStopRequired = false → r.2.2.1 = initializeStopReason)) ∧
      (r.2.2.2.stateMachine.getState = .GO →
        isEntryProhibited c hasCollision isStuck = false ∧ r.1 = true ∧ r.2.1 = c.path ∧
          r.2.2.1 = initializeStopReason)) := by
  intro m pd g cm util iutil now
  have hplan : prepareCycle iutil pd now m.laneId m.plannerParam path =
      .ok (.inr ⟨false, false, path, detectionAreas, [20, 21], 1, 1, 0, false⟩) := by
    with_unfolding_all rfl
  obtain ⟨r, hr, -⟩ := exists_of_map_eq_ok (show
    (modifyPathVelocity g cm util iutil pd now m path).map (fun _ => true) = .ok true by
    with_unfolding_all decide)
  exact ⟨_, r, ⟨hplan, hr⟩, modifyPathVelocity_decision _ _ _ _ hplan hr⟩

open Crossing in
theorem runCycles_stop_persists_carAt30 :
    let m : Members := ⟨1, param, "left", false, ⟨.STOP, none, 1⟩, rfl⟩
    let inputs : List CycleInput :=
      [⟨plannerData 0 [carAt30], ⟨0⟩, path⟩, ⟨plannerData 0 [carAt30], ⟨1000000000⟩, path⟩]
    ∃ outs m', (m.stateMachine.getState = .STOP ∧
      (∀ c ∈ inputs, ∀ plan, prepareCycle intersectionUtil c.plannerData c.now m.laneId
        m.plannerParam c.path = .ok (.inr plan) →
          ChecksDecide .axisAligned CMath.ratSqrt (Util.grid CMath.ratSqrt) c.plannerData c.now
            m.laneId m.plannerParam plan true) ∧
      runCycles .axisAligned CMath.ratSqrt (Util.grid CMath.ratSqrt) intersectionUtil m inputs =
        .ok (outs, m')) ∧
    m'.stateMachine.getState = .STOP := by
  intro m inputs
  have hprohibited : ∀ c ∈ inputs, ∀ plan, prepareCycle intersectionUtil c.plannerData c.now
      m.laneId m.plannerParam c.path = .ok (.inr plan) →
        ChecksDecide .axisAligned CMath.ratSqrt (Util.grid CMath.ratSqrt) c.plannerData c.now
          m.laneId m.plannerParam plan true := by
    intro c hc plan hp
    simp only [inputs, List.mem_cons, List.mem_singleton, List.not_mem_nil, or_false] at hc
    rcases hc with rfl | rfl
    all_goals
      rw [show prepareCycle intersectionUtil _ _ m.laneId m.plannerParam path =
        .ok (.inr ⟨false, false, path, detectionAreas, [20, 21], 1, 1, 0, false⟩) by
          with_unfolding_all rfl] at hp
      cases hp
      exact checksDecide_of_map _ _ _ true false (by with_unfolding_all decide)
        (by with_unfolding_all decide)
  obtain ⟨⟨outs, m'⟩, hrun, -⟩ := exists_of_map_eq_ok (show
    (runCycles .axisAligned CMath.ratSqrt (Util.grid CMath.ratSqrt) intersectionUtil m inputs).map
      (fun _ => true) = .ok true by with_unfolding_all decide)
  exact ⟨outs, m', ⟨rfl, hprohibited, hrun⟩, runCycles_stop_persists _ _ _ _ (by rfl) hprohibited hrun⟩

open Crossing in
theorem runCycles_release_crossing :
    let m : Members := ⟨1, param, "left", false, ⟨.STOP, none, 1⟩, rfl⟩
    let c₀ : CycleInput := ⟨plannerData 30 [], ⟨0⟩, path⟩
    let c₂ : CycleInput := ⟨plannerData 30 [], ⟨2000000000⟩, path⟩
    ∃ outs m', (m.stateMachine.getState = .STOP ∧ m.stateMachine.startTime = none ∧
      (∀ c ∈ [c₀, c₂], ∃ plan, prepareCycle intersectionUtil c.plannerData c.now m.laneId
        m.plannerParam c.path = .ok (.inr plan) ∧
          ChecksDecide .axisAligned CMath.ratSqrt (Util.grid CMath.ratSqrt) c.plannerData c.now
            m.laneId m.plannerParam plan false) ∧
      runCycles .axisAligned CMath.ratSqrt (Util.grid CMath.ratSqrt) intersectionUtil m [c₀, c₂] =
        .ok (outs, m')) ∧
    (m'.stateMachine.getState = .GO ↔
      ∃ c ∈ [c₂], (c.now - c₀.now).seconds > m.plannerParam.stateTransitMarginTime) := by
  intro m c₀ c₂
  have hclear : ∀ c ∈ [c₀, c₂], ∃ plan, prepareCycle intersectionUtil c.plannerData c.now m.laneId
      m.plannerParam c.path = .ok (.inr plan) ∧
        ChecksDecide .axisAligned CMath.ratSqrt (Util.grid CMath.ratSqrt) c.plannerData c.now
          m.laneId m.plannerParam plan false := by
    intro c hc
    simp only [List.mem_cons, List.mem_singleton, List.not_mem_nil, or_false] at hc
    rcases hc with rfl | rfl
    all_goals
      exact ⟨⟨false, false, path, detectionAreas, [20, 21], 1, 1, 3, true⟩, by with_unfolding_all rfl,
        checksDecide_of_map _ _ _ false false (by with_unfolding_all decide)
          (by with_unfolding_all decide)⟩
  obtain ⟨⟨outs, m'⟩, hrun, -⟩ := exists_of_map_eq_ok (show
    (runCycles .axisAligned CMath.ratSqrt (Util.grid CMath.ratSqrt) intersectionUtil m [c₀, c₂]).map
      (fun _ => true) = .ok true by with_unfolding_all decide)
  exact ⟨outs, m', ⟨rfl, rfl, hclear, hrun⟩, runCycles_release _ _ _ _ (by rfl) (by rfl) hclear hrun⟩

end IntersectionModule
end BehaviorVelocityPlanner
