import SceneIntersection.ModifyPathVelocity

/-!
# The module across planning cycles

The module is kept from one planning cycle to the next, and `modifyPathVelocity` is called once a
cycle with the cycle's planner data, clock reading and path (`runCycles`). A cycle makes at most
one request of the state machine, `cycleRequest`, at its clock reading, and the module after the
cycle is the module after that request (`modifyPathVelocity_request`); so after a run of cycles
the machine is the initial one after the requests the cycles made (`runCyclesRequests`), in order
(`runCycles_requests`). Over whole runs:

* `runCycles_go_after_margin`: from a machine with no pending timer, a cycle moves the module from
  STOP to GO only when it asks for GO and an earlier cycle of the run, at a clock reading `s` more
  than `state_transit_margin_time` before, asked for GO while in STOP, and since then the machine
  stayed in STOP and was asked for nothing but GO.
* `runCycles_latch`: a module in GO whose cycles all find the vehicle over the pass judge line
  and no external STOP stays as it is and reports no stop.
-/

namespace BehaviorVelocityPlanner
namespace IntersectionModule

/-- The input of one planning cycle. -/
structure CycleInput where
  plannerData : PlannerData
  now : Time
  path : PathWithLaneId

/-- The requests the cycles `inputs` make of the state machine, `reqs` giving the request of each
cycle, if it makes one, at the cycle's clock reading. -/
def cycleRequests : List CycleInput → List (Option State) → List StateMachine.Op
  | c :: cs, r :: rs => (r.map (.setStateWithMarginTime · c.now)).toList ++ cycleRequests cs rs
  | _, _ => []

theorem mem_cycleRequests {inputs : List CycleInput} {reqs : List (Option State)}
    {op : StateMachine.Op} (h : op ∈ cycleRequests inputs reqs) :
    ∃ c ∈ inputs, ∃ state, op = .setStateWithMarginTime state c.now := by
  induction inputs generalizing reqs with
  | nil => simp [cycleRequests] at h
  | cons c cs ih =>
    cases reqs with
    | nil => simp [cycleRequests] at h
    | cons r rs =>
      rcases List.mem_append.mp h with h | h
      · cases r with
        | none => simp at h
        | some state => exact ⟨c, List.mem_cons_self _ _, state, by simpa using h⟩
      · obtain ⟨c', hc', state, rfl⟩ := ih h
        exact ⟨c', List.mem_cons_of_mem _ hc', state, rfl⟩

theorem cleanRun_cycleRequests (sm : StateMachine) (inputs : List CycleInput)
    (reqs : List (Option State)) : sm.CleanRun (cycleRequests inputs reqs) := by
  induction inputs generalizing reqs sm with
  | nil => exact trivial
  | cons c cs ih =>
    cases reqs with
    | nil => exact trivial
    | cons r rs =>
      cases r with
      | none => exact ih sm rs
      | some state => exact And.intro (fun h => nomatch h) (ih _ rs)

section
variable (g : Geometry) (cm : CMath) (util : Util) (iutil : IntersectionUtil)

/-- The cycles `inputs` in order, each from the members the previous one left: the return value,
the path and the stop reason of each cycle, and the members after the last one. A fault ends the
run. -/
def runCycles : Members → List CycleInput →
    Except Fault (List (Bool × PathWithLaneId × StopReason) × Members)
  | m, [] => .ok ([], m)
  | m, c :: cs => do
    let (ret, path, stopReason, m) ← modifyPathVelocity g cm util iutil c.plannerData c.now m c.path
    let (outs, m) ← runCycles m cs
    return ((ret, path, stopReason) :: outs, m)

/-- The requests the cycles `inputs` make of the state machine, in order, each cycle from the
members the previous one left. -/
def runCyclesRequests : Members → List CycleInput → Except Fault (List (Option State))
  | _, [] => .ok []
  | m, c :: cs => do
    let req ← cycleRequest g cm util iutil c.plannerData c.now m c.path
    let (_, _, _, m) ← modifyPathVelocity g cm util iutil c.plannerData c.now m c.path
    return req :: (← runCyclesRequests m cs)

theorem runCycles_nil {m : Members} {outs : List (Bool × PathWithLaneId × StopReason)}
    {m' : Members} (h : runCycles g cm util iutil m [] = .ok (outs, m')) : outs = [] ∧ m' = m := by
  cases h; exact ⟨rfl, rfl⟩

theorem runCycles_cons {m : Members} {c : CycleInput} {cs : List CycleInput}
    {outs : List (Bool × PathWithLaneId × StopReason)} {m' : Members}
    (h : runCycles g cm util iutil m (c :: cs) = .ok (outs, m')) :
    ∃ r outs', modifyPathVelocity g cm util iutil c.plannerData c.now m c.path = .ok r ∧
      runCycles g cm util iutil r.2.2.2 cs = .ok (outs', m') ∧
      outs = (r.1, r.2.1, r.2.2.1) :: outs' := by
  simp only [runCycles, bind, Except.bind] at h
  rcases hc : modifyPathVelocity g cm util iutil c.plannerData c.now m c.path with
    e | ⟨ret, path, stopReason, m₁⟩ <;> simp only [hc] at h
  · cases h
  rcases hcs : runCycles g cm util iutil m₁ cs with e | ⟨outs', m₂⟩ <;> simp only [hcs] at h
  · cases h
  cases h
  exact ⟨_, _, rfl, hcs, rfl⟩

/-- **The run lemma.** After a run of cycles the lane and the parameters are as they were, and the
state machine is the initial one after the requests the cycles made, in order. -/
theorem runCycles_requests {m : Members} {inputs : List CycleInput}
    {outs : List (Bool × PathWithLaneId × StopReason)} {m' : Members}
    (h : runCycles g cm util iutil m inputs = .ok (outs, m')) :
    ∃ reqs, runCyclesRequests g cm util iutil m inputs = .ok reqs ∧ m'.laneId = m.laneId ∧
      m'.plannerParam = m.plannerParam ∧
      m'.stateMachine = m.stateMachine.run (cycleRequests inputs reqs) := by
  induction inputs generalizing m outs with
  | nil =>
    obtain ⟨-, rfl⟩ := runCycles_nil g cm util iutil h
    exact ⟨[], rfl, rfl, rfl, rfl⟩
  | cons c cs ih =>
    obtain ⟨r, outs', hc, hcs, -⟩ := runCycles_cons g cm util iutil h
    obtain ⟨reqs, hreqs, hlane, hparam, hsm⟩ := ih hcs
    obtain ⟨req, hreq, e⟩ := modifyPathVelocity_request g cm util iutil _ _ hc
    refine ⟨req :: reqs, by simp only [runCyclesRequests, hreq, hc, hreqs, bind, Except.bind, pure,
      Except.pure], ?_⟩
    rw [e] at hlane hparam hsm
    cases req <;> exact ⟨hlane, hparam, hsm⟩

/-- **Hysteresis over the cycles.** For every run of cycles from a module with no pending timer
and every next cycle that moves the state machine from STOP to GO, the next cycle asks for GO, and
the requests the cycles of the run made hold a GO request at some cycle's clock reading `s`, more
than `state_transit_margin_time` before the next cycle; before that request the machine was in
STOP, it stayed in STOP since, and every later request was GO. -/
theorem runCycles_go_after_margin {m : Members} (hm : m.stateMachine.startTime = none)
    {inputs : List CycleInput} {outs : List (Bool × PathWithLaneId × StopReason)} {m₁ : Members}
    (hrun : runCycles g cm util iutil m inputs = .ok (outs, m₁)) {c : CycleInput}
    {r : Bool × PathWithLaneId × StopReason × Members}
    (hc : modifyPathVelocity g cm util iutil c.plannerData c.now m₁ c.path = .ok r)
    (hstop : m₁.stateMachine.getState = .STOP) (hgo : r.2.2.2.stateMachine.getState = .GO) :
    cycleRequest g cm util iutil c.plannerData c.now m₁ c.path = .ok (some .GO) ∧
    ∃ reqs, runCyclesRequests g cm util iutil m inputs = .ok reqs ∧
      ∃ pre s post, cycleRequests inputs reqs = pre ++ .setStateWithMarginTime .GO s :: post ∧
        s ∈ inputs.map (·.now) ∧ (c.now - s).seconds > m.plannerParam.stateTransitMarginTime ∧
        (m.stateMachine.run pre).state = .STOP ∧
        (∀ q, q <+: post →
          (m.stateMachine.run (pre ++ .setStateWithMarginTime .GO s :: q)).state = .STOP) ∧
        ∀ state t, .setStateWithMarginTime state t ∈ post → state = .GO := by
  obtain ⟨reqs, hreqs, -, hparam, hsm⟩ := runCycles_requests g cm util iutil hrun
  obtain ⟨req, hreq, e⟩ := modifyPathVelocity_request g cm util iutil _ _ hc
  -- the next cycle makes a request, since it changes the state
  obtain ⟨state, rfl⟩ : ∃ state, req = some state := by
    cases req with
    | none => rw [e] at hgo; cases hstop.symm.trans hgo
    | some state => exact ⟨state, rfl⟩
  rw [e] at hgo
  obtain ⟨rfl, s, hs, hmargin⟩ := StateMachine.setStateWithMarginTime_STOP_to_GO hstop hgo
  rw [hsm] at hs
  obtain ⟨pre, post, hops, hpre, hpost, hgos⟩ :=
    StateMachine.timerHistory hm _ (cleanRun_cycleRequests _ _ _) s hs
  -- the GO request at `s` is a request of some cycle
  obtain ⟨c', hc', _, hs'⟩ := mem_cycleRequests (hops ▸ List.mem_append_right pre
    (List.mem_cons_self (StateMachine.Op.setStateWithMarginTime .GO s) post))
  cases hs'
  refine ⟨hreq, reqs, hreqs, pre, c'.now, post, hops, List.mem_map_of_mem _ hc', ?_, hpre, hpost, hgos⟩
  rwa [m₁.margin_eq, hparam] at hmargin

/-- **No stop past the pass judge line.** For every run of cycles from a module in GO in which
every cycle that reaches a plan finds the vehicle over the pass judge line and no external STOP,
the module ends as it started, in GO, and no cycle reports a stop. -/
theorem runCycles_latch {m : Members} (hgo : m.stateMachine.getState = .GO)
    {inputs : List CycleInput}
    (hover : ∀ c ∈ inputs, ∀ plan,
      prepareCycle iutil c.plannerData c.now m.laneId m.plannerParam c.path = .ok (.inr plan) →
        plan.isOverPassJudgeLine = true ∧ plan.externalStop = false)
    {outs : List (Bool × PathWithLaneId × StopReason)} {m' : Members}
    (h : runCycles g cm util iutil m inputs = .ok (outs, m')) :
    m' = m ∧ ∀ out ∈ outs, out.2.2 = initializeStopReason := by
  induction inputs generalizing outs with
  | nil =>
    obtain ⟨rfl, rfl⟩ := runCycles_nil g cm util iutil h
    exact ⟨rfl, by simp⟩
  | cons c cs ih =>
    obtain ⟨r, outs', hc, hcs, rfl⟩ := runCycles_cons g cm util iutil h
    obtain ⟨hm, hreason⟩ :=
      modifyPathVelocity_latched g cm util iutil _ _ hgo (hover c (List.mem_cons_self _ _)) hc
    rw [hm] at hcs
    obtain ⟨rfl, houts⟩ := ih (fun c' hc' => hover c' (List.mem_cons_of_mem _ hc')) hcs
    exact ⟨rfl, List.forall_mem_cons.mpr ⟨hreason, houts⟩⟩

end

open Crossing in
theorem runCycles_go_after_margin_crossing :
    let m : Members := ⟨1, param, "left", false, ⟨.STOP, none, 1⟩, rfl⟩
    let m₁ : Members := ⟨1, param, "left", false, ⟨.STOP, some ⟨0⟩, 1⟩, rfl⟩
    let c₀ : CycleInput := ⟨plannerData 30 [], ⟨0⟩, path⟩
    let c₂ : CycleInput := ⟨plannerData 30 [], ⟨2000000000⟩, path⟩
    ∃ outs r, (m.stateMachine.startTime = none ∧
      runCycles .axisAligned CMath.ratSqrt (Util.grid CMath.ratSqrt) intersectionUtil m [c₀] =
        .ok (outs, m₁) ∧
      modifyPathVelocity .axisAligned CMath.ratSqrt (Util.grid CMath.ratSqrt) intersectionUtil
        c₂.plannerData c₂.now m₁ c₂.path = .ok r ∧
      m₁.stateMachine.getState = .STOP ∧ r.2.2.2.stateMachine.getState = .GO) ∧
    cycleRequest .axisAligned CMath.ratSqrt (Util.grid CMath.ratSqrt) intersectionUtil
      c₂.plannerData c₂.now m₁ c₂.path = .ok (some .GO) ∧
    ∃ reqs, runCyclesRequests .axisAligned CMath.ratSqrt (Util.grid CMath.ratSqrt) intersectionUtil
        m [c₀] = .ok reqs ∧
      ∃ pre s post, cycleRequests [c₀] reqs = pre ++ .setStateWithMarginTime .GO s :: post ∧
        s ∈ [c₀].map (·.now) ∧ (c₂.now - s).seconds > m.plannerParam.stateTransitMarginTime ∧
        (m.stateMachine.run pre).state = .STOP ∧
        (∀ q, q <+: post →
          (m.stateMachine.run (pre ++ .setStateWithMarginTime .GO s :: q)).state = .STOP) ∧
        ∀ state t, .setStateWithMarginTime state t ∈ post → state = .GO := by
  intro m m₁ c₀ c₂
  obtain ⟨⟨outs, _⟩, hrun, rfl⟩ := exists_of_map_eq_ok (show
    (runCycles .axisAligned CMath.ratSqrt (Util.grid CMath.ratSqrt) intersectionUtil m [c₀]).map
      (·.2) = .ok m₁ by with_unfolding_all decide)
  obtain ⟨r, hc, hgo⟩ := exists_of_map_eq_ok (show
    (modifyPathVelocity .axisAligned CMath.ratSqrt (Util.grid CMath.ratSqrt) intersectionUtil
      c₂.plannerData c₂.now m₁ c₂.path).map (·.2.2.2.stateMachine.getState) = .ok .GO by
    with_unfolding_all decide)
  exact ⟨outs, r, ⟨rfl, hrun, hc, rfl, hgo⟩,
    runCycles_go_after_margin _ _ _ _ rfl hrun hc rfl hgo⟩

open Crossing in
theorem runCycles_latch_crossing :
    let m : Members := ⟨1, param, "left", false, ⟨.GO, none, 1⟩, rfl⟩
    let inputs : List CycleInput :=
      [⟨plannerData 30 [carAt30], ⟨0⟩, path⟩, ⟨plannerData 30 [carAt30], ⟨1000000000⟩, path⟩]
    ∃ outs, (m.stateMachine.getState = .GO ∧
      (∀ c ∈ inputs, ∀ plan, prepareCycle intersectionUtil c.plannerData c.now m.laneId
        m.plannerParam c.path = .ok (.inr plan) →
          plan.isOverPassJudgeLine = true ∧ plan.externalStop = false) ∧
      runCycles .axisAligned CMath.ratSqrt (Util.grid CMath.ratSqrt) intersectionUtil m inputs =
        .ok (outs, m)) ∧
    m = m ∧ ∀ out ∈ outs, out.2.2 = initializeStopReason := by
  intro m inputs
  have hover : ∀ c ∈ inputs, ∀ plan, prepareCycle intersectionUtil c.plannerData c.now m.laneId
      m.plannerParam c.path = .ok (.inr plan) →
        plan.isOverPassJudgeLine = true ∧ plan.externalStop = false := by
    intro c hc plan hp
    have hall : inputs.all fun c => (prepareCycle intersectionUtil c.plannerData c.now m.laneId
        m.plannerParam c.path).map (Sum.elim (fun _ => true)
          fun plan => plan.isOverPassJudgeLine && !plan.externalStop) == .ok true := by
      with_unfolding_all decide
    have := List.all_eq_true.mp hall c hc
    rw [hp] at this
    simpa [Except.map] using this
  obtain ⟨⟨outs, _⟩, hrun, rfl⟩ := exists_of_map_eq_ok (show
    (runCycles .axisAligned CMath.ratSqrt (Util.grid CMath.ratSqrt) intersectionUtil m inputs).map
      (·.2) = .ok m by with_unfolding_all decide)
  exact ⟨outs, ⟨rfl, hover, hrun⟩, runCycles_latch _ _ _ _ (by rfl) hover hrun⟩

end IntersectionModule
end BehaviorVelocityPlanner
