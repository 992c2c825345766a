import SceneIntersection.Time
import Mathlib.Data.List.Basic

/-!
# The GO/STOP state machine

`IntersectionModule::StateMachine`: a state, a pending timestamp `start_time_` (a `shared_ptr`
that is `nullptr` when no STOP→GO transition is pending) and a margin time. A GO request in STOP
only starts the timer; the state turns GO once a later GO request finds the timer older than the
margin. Every other request clears the timer.

`runRequests_debounce` is the whole behaviour of a run of requests from a machine with no timer:
the requests after the last STOP decide the final machine. `run_timer_law` is the run invariant
over all three operations, for the runs in which `setState GO` never finds a pending timer
(`setState` is a plain setter and leaves the timer as it is).
-/

namespace BehaviorVelocityPlanner
namespace IntersectionModule

/-- `IntersectionModule::State`. -/
inductive State
  | STOP
  | GO
deriving DecidableEq, Repr

/-- `IntersectionModule::StateMachine`. -/
@[ext]
structure StateMachine where
  state : State
  startTime : Option Time
  marginTime : ℚ
deriving DecidableEq, Repr

namespace StateMachine

/-- `StateMachine::setStateWithMarginTime`; `now` is `clock.now()`. The last branch is the
"Unsuitable state" error, which ignores the request. -/
def setStateWithMarginTime (m : StateMachine) (state : State) (now : Time) : StateMachine :=
  if m.state = state then { m with startTime := none }
  else if state = .STOP then { m with state := .STOP, startTime := none }
  else if state = .GO then
    match m.startTime with
    | none => { m with startTime := some now }
    | some start =>
      if (now - start).seconds > m.marginTime then { m with state := .GO, startTime := none }
      else m
  else m

/-- `StateMachine::setState`. -/
def setState (m : StateMachine) (state : State) : StateMachine := { m with state := state }

/-- `StateMachine::setMarginTime`. -/
def setMarginTime (m : StateMachine) (t : ℚ) : StateMachine := { m with marginTime := t }

/-- `StateMachine::getState`. -/
def getState (m : StateMachine) : State := m.state

variable {m : StateMachine} {t : Time}

@[simp] theorem setStateWithMarginTime_marginTime (m : StateMachine) (s : State) (t : Time) :
    (m.setStateWithMarginTime s t).marginTime = m.marginTime := by
  unfold setStateWithMarginTime
  split_ifs <;> try rfl
  split <;> (try split_ifs) <;> rfl

theorem setStateWithMarginTime_self (h : m.state = s) :
    m.setStateWithMarginTime s t = { m with startTime := none } := by
  simp [setStateWithMarginTime, h]

theorem setStateWithMarginTime_STOP :
    m.setStateWithMarginTime .STOP t = { m with state := .STOP, startTime := none } := by
  by_cases h : m.state = .STOP
  · rw [setStateWithMarginTime_self h]; ext <;> simp [h]
  · simp [setStateWithMarginTime, h]

theorem setStateWithMarginTime_GO_none (h : m.state = .STOP) (hs : m.startTime = none) :
    m.setStateWithMarginTime .GO t = { m with startTime := some t } := by
  simp [setStateWithMarginTime, h, hs]

theorem setStateWithMarginTime_GO_some (h : m.state = .STOP) (hs : m.startTime = some s) :
    m.setStateWithMarginTime .GO t =
      if (t - s).seconds > m.marginTime then { m with state := .GO, startTime := none } else m := by
  simp [setStateWithMarginTime, h, hs]

theorem setStateWithMarginTime_idem (h : 0 ≤ m.marginTime) (s : State) (t : Time) :
    (m.setStateWithMarginTime s t).setStateWithMarginTime s t = m.setStateWithMarginTime s t := by
  cases s with
  | STOP => simp only [setStateWithMarginTime_STOP]
  | GO =>
    cases hst : m.state with
    | GO =>
      rw [setStateWithMarginTime_self hst]
      exact setStateWithMarginTime_self hst
    | STOP =>
      cases hs : m.startTime with
      | none =>
        rw [setStateWithMarginTime_GO_none hst hs,
          setStateWithMarginTime_GO_some (m := { m with startTime := some t }) hst rfl]
        simp [not_lt.mpr h]
      | some start =>
        rw [setStateWithMarginTime_GO_some hst hs]
        split_ifs with hgt
        · exact setStateWithMarginTime_self rfl
        · rw [setStateWithMarginTime_GO_some hst hs, if_neg hgt]

/-! ### Runs of requests -/

/-- The requests `reqs`, each a requested state and the clock reading of its cycle, in order. -/
def runRequests (m : StateMachine) (reqs : List (State × Time)) : StateMachine :=
  reqs.foldl (fun m r => m.setStateWithMarginTime r.1 r.2) m

@[simp] theorem runRequests_nil : m.runRequests [] = m := rfl

@[simp] theorem runRequests_cons (r : State × Time) (reqs : List (State × Time)) :
    m.runRequests (r :: reqs) = (m.setStateWithMarginTime r.1 r.2).runRequests reqs := rfl

theorem runRequests_append (reqs reqs' : List (State × Time)) :
    m.runRequests (reqs ++ reqs') = (m.runRequests reqs).runRequests reqs' :=
  List.foldl_append _ _ _ _

@[simp] theorem runRequests_marginTime (m : StateMachine) (reqs : List (State × Time)) :
    (m.runRequests reqs).marginTime = m.marginTime := by
  induction reqs generalizing m <;> simp [*]

theorem runRequests_GO_of_GO (h : m.state = .GO) (ts : List Time) :
    m.runRequests (ts.map (.GO, ·)) = if ts = [] then m else { m with startTime := none } := by
  induction ts generalizing m with
  | nil => rfl
  | cons t ts ih =>
    rw [List.map_cons, runRequests_cons, setStateWithMarginTime_self h,
      ih (m := { m with startTime := none }) h]
    simp

theorem runRequests_GO_pending (h : m.state = .STOP) (hs : m.startTime = some s)
    (ts : List Time) :
    m.runRequests (ts.map (.GO, ·)) =
      if ∃ t ∈ ts, (t - s).seconds > m.marginTime then { m with state := .GO, startTime := none }
      else m := by
  induction ts with
  | nil => simp
  | cons t ts ih =>
    rw [List.map_cons, runRequests_cons, setStateWithMarginTime_GO_some h hs]
    by_cases ht : (t - s).seconds > m.marginTime
    · have hex : ∃ t' ∈ t :: ts, (t' - s).seconds > m.marginTime := ⟨t, List.mem_cons_self t ts, ht⟩
      rw [if_pos ht, runRequests_GO_of_GO rfl, if_pos hex]
      split <;> rfl
    · rw [if_neg ht, ih]
      simp only [List.mem_cons, exists_eq_or_imp, ht, false_or]

theorem runRequests_last_STOP {pre : List (State × Time)} (hne : pre ≠ [])
    (hpre : ∀ r ∈ pre.getLast?, r.1 = .STOP) :
    m.runRequests pre = { m with state := .STOP, startTime := none } := by
  obtain ⟨pre, ⟨s, t⟩, rfl⟩ := List.eq_nil_or_concat pre |>.resolve_left hne
  rw [List.concat_eq_append] at hpre ⊢
  obtain rfl : s = .STOP := hpre (s, t) (by simp)
  rw [runRequests_append]
  ext <;> simp [setStateWithMarginTime_STOP]

/-- **Debouncing.** Split the requests at the last STOP: `pre` is empty or ends with STOP, and
`gos` are the clock readings of the GO requests after it. A machine with no timer that starts in
GO and sees no STOP stays as it is; otherwise the final machine is STOP with no timer when no GO
follows the last STOP, GO with no timer when a later GO request is more than the margin after the
first one `ts`, and STOP with the timer at `ts` otherwise. -/
theorem runRequests_debounce (hm : m.startTime = none) (pre : List (State × Time))
    (gos : List Time) (hpre : ∀ r ∈ pre.getLast?, r.1 = .STOP) :
    m.runRequests (pre ++ gos.map (.GO, ·)) =
      if pre = [] ∧ m.state = .GO then m
      else match gos with
        | [] => { m with state := .STOP }
        | ts :: rest =>
          if ∃ t ∈ rest, (t - ts).seconds > m.marginTime then { m with state := .GO }
          else { m with state := .STOP, startTime := some ts } := by
  rw [runRequests_append]
  by_cases hgo : pre = [] ∧ m.state = .GO
  · obtain ⟨rfl, h⟩ := hgo
    rw [if_pos ⟨rfl, h⟩, runRequests_nil, runRequests_GO_of_GO h]
    split <;> ext <;> simp [hm]
  rw [if_neg hgo]
  -- after `pre` the machine is in STOP with no timer
  have hstop : m.runRequests pre = { m with state := .STOP } := by
    by_cases hne : pre = []
    · subst hne
      cases h : m.state
      · ext <;> simp [h]
      · exact absurd ⟨rfl, h⟩ hgo
    · rw [runRequests_last_STOP hne hpre]; ext <;> simp [hm]
  rw [hstop]
  cases gos with
  | nil => rfl
  | cons ts rest =>
    dsimp only [List.map_cons, runRequests_cons]
    rw [setStateWithMarginTime_GO_none (m := { m with state := .STOP }) rfl hm,
      runRequests_GO_pending rfl rfl]
    split <;> ext <;> simp [hm]

theorem runRequests_debounce_example :
    (⟨.STOP, none, 1⟩ : StateMachine).runRequests
      ([] ++ [⟨0⟩, ⟨500000000⟩, ⟨1500000000⟩].map (.GO, ·)) = ⟨.GO, none, 1⟩ := by
  rw [runRequests_debounce rfl [] _ (by simp)]
  simp [Duration.seconds]
  norm_num

/-! ### Runs of all three operations -/

/-- A call of one of the machine's three mutating operations. -/
inductive Op
  | setStateWithMarginTime (state : State) (now : Time)
  | setState (state : State)
  | setMarginTime (t : ℚ)
deriving DecidableEq, Repr

/-- The machine after the call `op`. -/
def apply (m : StateMachine) : Op → StateMachine
  | .setStateWithMarginTime s now => m.setStateWithMarginTime s now
  | .setState s => m.setState s
  | .setMarginTime t => m.setMarginTime t

/-- The calls `ops`, in order. -/
def run (m : StateMachine) (ops : List Op) : StateMachine := ops.foldl apply m

@[simp] theorem run_nil : m.run [] = m := rfl

@[simp] theorem run_concat (ops : List Op) (op : Op) : m.run (ops ++ [op]) = (m.run ops).apply op :=
  List.foldl_concat _ _ _ _

/-- No call `setState GO` of the run finds a pending timer. -/
def CleanRun : StateMachine → List Op → Prop
  | _, [] => True
  | m, op :: ops => (op = .setState .GO → m.startTime = none) ∧ CleanRun (m.apply op) ops

instance decidableCleanRun : ∀ m ops, Decidable (CleanRun m ops)
  | _, [] => isTrue trivial
  | m, op :: ops =>
    have := decidableCleanRun (m.apply op) ops
    inferInstanceAs (Decidable ((op = .setState .GO → m.startTime = none) ∧ _))

theorem CleanRun.concat {ops : List Op} {op : Op} (h : CleanRun m (ops ++ [op])) :
    CleanRun m ops ∧ (op = .setState .GO → (m.run ops).startTime = none) := by
  induction ops generalizing m with
  | nil => exact ⟨trivial, h.1⟩
  | cons op' ops ih => exact ⟨⟨h.1, (ih h.2).1⟩, (ih h.2).2⟩

theorem apply_startTime_eq_some {op : Op} (hc : op = .setState .GO → m.startTime = none)
    (h : (m.apply op).startTime = some s) :
    (op = .setStateWithMarginTime .GO s ∧ m.state = .STOP ∧ (m.apply op).state = .STOP) ∨
    (m.startTime = some s ∧ (m.state = .STOP → (m.apply op).state = .STOP) ∧
      ∀ r t, op = .setStateWithMarginTime r t → r = .GO) := by
  obtain ⟨st, ts, mt⟩ := m
  cases op with
  | setStateWithMarginTime r t =>
    cases r <;> cases st <;> cases ts <;> simp_all [apply, setStateWithMarginTime]
    split_ifs at h ⊢
    simp_all
  | setState r => cases r <;> simp_all [apply, setState]
  | setMarginTime t => simp_all [apply, setMarginTime]

/-- The timer of `m.run ops`, if any, was started by a GO request of `ops` that found the machine
in STOP; since then the machine stayed in STOP and every request was GO. -/
def TimerHistory (m : StateMachine) (ops : List Op) : Prop :=
  ∀ s, (m.run ops).startTime = some s → ∃ pre post,
    ops = pre ++ .setStateWithMarginTime .GO s :: post ∧ (m.run pre).state = .STOP ∧
    (∀ q, q <+: post → (m.run (pre ++ .setStateWithMarginTime .GO s :: q)).state = .STOP) ∧
    ∀ r t, .setStateWithMarginTime r t ∈ post → r = .GO

theorem timerHistory (hm : m.startTime = none) (ops : List Op) (hc : CleanRun m ops) :
    TimerHistory m ops := by
  induction ops using List.reverseRecOn with
  | nil => intro s h; simp [hm] at h
  | append_singleton ops op ih =>
    obtain ⟨hc, hop⟩ := hc.concat
    intro s h
    rw [run_concat] at h
    rcases apply_startTime_eq_some hop h with ⟨rfl, hstop, hstop'⟩ | ⟨hs, hkeep, hreq⟩
    · exact ⟨ops, [], rfl, hstop, by simpa using hstop', by simp⟩
    obtain ⟨pre, post, rfl, hpre, hpost, hreqs⟩ := ih hc s hs
    have hlast : (m.run (pre ++ .setStateWithMarginTime .GO s :: post)).state = .STOP :=
      hpost post (List.prefix_refl post)
    refine ⟨pre, post ++ [op], by simp, hpre, fun q hq => ?_, fun r t hr => ?_⟩
    · rcases List.prefix_concat_iff.mp hq with rfl | hq
      · rw [← List.cons_append, ← List.append_assoc, run_concat]; exact hkeep hlast
      · exact hpost q hq
    · rcases List.mem_append.mp hr with hr | hr
      · exact hreqs r t hr
      · exact hreq r t (List.mem_singleton.mp hr).symm

theorem setStateWithMarginTime_STOP_to_GO (h : m.state = .STOP)
    (h' : (m.setStateWithMarginTime r t).state = .GO) :
    r = .GO ∧ ∃ s, m.startTime = some s ∧ (t - s).seconds > m.marginTime := by
  obtain ⟨st, ts, mt⟩ := m
  subst h
  cases r
  · simp [setStateWithMarginTime] at h'
  · cases ts with
    | none => simp [setStateWithMarginTime] at h'
    | some s =>
      simp only [setStateWithMarginTime, reduceCtorEq, if_false, if_true] at h'
      split_ifs at h' with hs
      · exact ⟨rfl, s, rfl, hs⟩

/-- The timer law of a run `ops` from `m`: a timer is pending only in STOP, and a request that
moves STOP to GO at `t` comes after a GO request at `s` with `t - s` over the margin, since which
the machine stayed in STOP and every request was GO. -/
structure TimerLaw (m : StateMachine) (ops : List Op) : Prop where
  stop_of_pending : (m.run ops).startTime ≠ none → (m.run ops).state = .STOP
  go_after_margin : ∀ r t, (m.run ops).state = .STOP →
    ((m.run ops).setStateWithMarginTime r t).state = .GO →
    r = .GO ∧ ∃ pre s post, ops = pre ++ .setStateWithMarginTime .GO s :: post ∧
      (t - s).seconds > (m.run ops).marginTime ∧ (m.run pre).state = .STOP ∧
      (∀ q, q <+: post → (m.run (pre ++ .setStateWithMarginTime .GO s :: q)).state = .STOP) ∧
      ∀ r' t', .setStateWithMarginTime r' t' ∈ post → r' = .GO

/-- The timer law holds of every run from a machine with no timer in which `setState GO` never
finds a pending timer. -/
theorem run_timer_law (hm : m.startTime = none) (ops : List Op) (hc : CleanRun m ops) :
    TimerLaw m ops := by
  have hist := timerHistory hm ops hc
  refine ⟨fun hne => ?_, fun r t hstop hgo => ?_⟩
  · obtain ⟨s, hs⟩ := Option.ne_none_iff_exists'.mp hne
    obtain ⟨pre, post, hops, -, hpost, -⟩ := hist s hs
    rw [hops]; exact hpost post (List.prefix_refl post)
  · obtain ⟨rfl, s, hs, hmargin⟩ := setStateWithMarginTime_STOP_to_GO hstop hgo
    obtain ⟨pre, post, hops, hpre, hpost, hreqs⟩ := hist s hs
    exact ⟨rfl, pre, s, post, hops, hmargin, hpre, hpost, hreqs⟩

theorem run_timer_law_example :
    CleanRun ⟨.STOP, none, 1⟩ [.setStateWithMarginTime .GO ⟨0⟩, .setState .STOP, .setMarginTime 2] ∧
    TimerLaw ⟨.STOP, none, 1⟩ [.setStateWithMarginTime .GO ⟨0⟩, .setState .STOP, .setMarginTime 2] :=
  ⟨by decide, run_timer_law rfl _ (by decide)⟩

/-- `setState GO` leaves a pending timer in place: after a GO request in STOP and `setState GO`,
the machine is in GO with a timer. -/
theorem setState_keeps_timer :
    ((⟨.STOP, none, 1⟩ : StateMachine).run [.setStateWithMarginTime .GO ⟨0⟩, .setState .GO]).state
      = .GO ∧
    ((⟨.STOP, none, 1⟩ : StateMachine).run [.setStateWithMarginTime .GO ⟨0⟩, .setState .GO]).startTime
      = some ⟨0⟩ := by
  decide

end StateMachine

end IntersectionModule
end BehaviorVelocityPlanner
