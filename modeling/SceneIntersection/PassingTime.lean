import SceneIntersection.Libraries
import Mathlib.Data.List.Chain

/-!
# The time-distance profile

`IntersectionModule::calcIntersectionPassingTime` forward-simulates the ego vehicle from the
closest path point: over each segment of length `d` the speed goes from `v` to
`min(sqrt(v² + 2·a·d), cap)`, the segment is covered at the average of the two capped at `cap`, and
the elapsed time and the arc length are appended. The loop stops after the first point off the
objective lane once the lane was found; if the lane is never found the profile is `{(0, 0)}`.

`calcIntersectionPassingTime_profile`: with a positive speed cap and a non-negative acceleration,
the profile starts at `(0, 0)`, neither field decreases along it, the time grows strictly over every
segment of positive length (`IsTimeDistanceProfile`), and every average speed the loop divides by
lies in `(0, cap]`. The invariant is that the running speed stays positive.
-/

namespace BehaviorVelocityPlanner
namespace IntersectionModule

/-- `TimeDistanceArray`: pairs of elapsed time and arc length. -/
abbrev TimeDistanceArray := List (ℚ × ℚ)

/-- The values one iteration of the loop of `calcIntersectionPassingTime` computes; the entry it
appends is `(passingTime, distSum)`. -/
structure PassingStep where
  dist : ℚ
  nextVel : ℚ
  averageVel : ℚ
  passingTime : ℚ
  distSum : ℚ
deriving DecidableEq, Repr

section
variable (cm : CMath) (param : PlannerParam) (objectiveLaneId : LaneId)

/-- The loop of `calcIntersectionPassingTime` from the point `prev` over the points after it, with
`closest_vel`, `dist_sum`, `passing_time` and `assigned_lane_found` as they stand: its iterations
and the final `assigned_lane_found`. -/
def passingLoop : (closestVel distSum passingTime : ℚ) → (assignedLaneFound : Bool) →
    PathPointWithLaneId → List PathPointWithLaneId → List PassingStep × Bool
  | _, _, _, found, _, [] => ([], found)
  | closestVel, distSum, passingTime, found, prev, p :: rest =>
    let dist := calcDist2d cm prev p
    let nextVel :=
      min (cm.sqrt (closestVel ^ 2 + 2 * param.intersectionMaxAcc * dist)) param.intersectionVelocity
    let averageVel := min ((closestVel + nextVel) / 2) param.intersectionVelocity
    let step : PassingStep :=
      ⟨dist, nextVel, averageVel, passingTime + dist / averageVel, distSum + dist⟩
    let hasObjectiveLaneId := hasLaneId p objectiveLaneId
    if found && !hasObjectiveLaneId then ([step], found)
    else
      let r := passingLoop nextVel step.distSum step.passingTime hasObjectiveLaneId p rest
      (step :: r.1, r.2)

/-- The iterations of the loop of `calcIntersectionPassingTime`, from `i = closest_idx + 1`, and
the final `assigned_lane_found`. -/
def passingSteps (currentVelocity : ℚ) (path : PathWithLaneId) (closestIdx : Nat) :
    List PassingStep × Bool :=
  match path.points.drop closestIdx with
  | [] => ([], false)
  | prev :: rest =>
    passingLoop cm param objectiveLaneId (max (1 / 10) |currentVelocity|) 0 0 false prev rest

/-- `IntersectionModule::calcIntersectionPassingTime`; `currentVelocity` is
`planner_data_->current_velocity->twist.linear.x`. -/
def calcIntersectionPassingTime (currentVelocity : ℚ) (path : PathWithLaneId) (closestIdx : Nat) :
    TimeDistanceArray :=
  let r := passingSteps cm param objectiveLaneId currentVelocity path closestIdx
  if r.2 then (0, 0) :: r.1.map fun s => (s.passingTime, s.distSum)
  else [(0, 0)]

end

/-- A profile that starts at `(0, 0)` and is sorted in both fields: what the searches over the
profile in `checkCollision` rely on. -/
structure IsSortedProfile (arr : TimeDistanceArray) : Prop where
  head_eq : arr.head? = some (0, 0)
  chain : arr.Chain' fun a b => a.1 ≤ b.1 ∧ a.2 ≤ b.2

namespace IsSortedProfile
variable {arr : TimeDistanceArray}

theorem ne_nil (h : IsSortedProfile arr) : arr ≠ [] := by
  rintro rfl; cases h.head_eq

theorem zero_mem (h : IsSortedProfile arr) : ((0 : ℚ), (0 : ℚ)) ∈ arr :=
  List.mem_of_mem_head? h.head_eq

theorem time_sorted (h : IsSortedProfile arr) : arr.Pairwise fun a b => a.1 ≤ b.1 := by
  have : IsTrans (ℚ × ℚ) (fun a b => a.1 ≤ b.1) := ⟨fun _ _ _ => le_trans⟩
  exact List.chain'_iff_pairwise.mp (h.chain.imp fun _ _ hs => hs.1)

theorem arc_sorted (h : IsSortedProfile arr) : arr.Pairwise fun a b => a.2 ≤ b.2 := by
  have : IsTrans (ℚ × ℚ) (fun a b => a.2 ≤ b.2) := ⟨fun _ _ _ => le_trans⟩
  exact List.chain'_iff_pairwise.mp (h.chain.imp fun _ _ hs => hs.2)

end IsSortedProfile

/-- Consecutive entries of a time-distance profile: neither the time nor the arc length
decreases, and the time grows strictly over a segment of positive length. -/
def ProfileStep (a b : ℚ × ℚ) : Prop := a.1 ≤ b.1 ∧ a.2 ≤ b.2 ∧ (a.2 < b.2 → a.1 < b.1)

/-- What `calcIntersectionPassingTime` guarantees of its result: it starts at `(0, 0)` and every
two consecutive entries are a `ProfileStep`. -/
structure IsTimeDistanceProfile (arr : TimeDistanceArray) : Prop where
  head_eq : arr.head? = some (0, 0)
  chain : arr.Chain' ProfileStep

theorem IsTimeDistanceProfile.sorted {arr : TimeDistanceArray} (h : IsTimeDistanceProfile arr) :
    IsSortedProfile arr :=
  ⟨h.head_eq, h.chain.imp fun _ _ hs => ⟨hs.1, hs.2.1⟩⟩

section
variable {cm : CMath} {param : PlannerParam} {objectiveLaneId : LaneId}

theorem nextVel_averageVel_pos (hv : 0 < param.intersectionVelocity)
    (ha : 0 ≤ param.intersectionMaxAcc) {v d : ℚ} (hv0 : 0 < v) (hd : 0 ≤ d) :
    let nextVel := min (cm.sqrt (v ^ 2 + 2 * param.intersectionMaxAcc * d)) param.intersectionVelocity
    0 < nextVel ∧ 0 < min ((v + nextVel) / 2) param.intersectionVelocity := by
  have hsq : 0 < cm.sqrt (v ^ 2 + 2 * param.intersectionMaxAcc * d) :=
    cm.sqrt_pos _ (by positivity)
  have hnext := lt_min hsq hv
  exact ⟨hnext, lt_min (by linarith) hv⟩

theorem passingLoop_spec (hv : 0 < param.intersectionVelocity)
    (ha : 0 ≤ param.intersectionMaxAcc) (rest : List PathPointWithLaneId) :
    ∀ (v distSum passingTime : ℚ) (found : Bool) (prev : PathPointWithLaneId), 0 < v →
      let r := passingLoop cm param objectiveLaneId v distSum passingTime found prev rest
      (∀ s ∈ r.1, 0 < s.averageVel ∧ s.averageVel ≤ param.intersectionVelocity) ∧
      ((passingTime, distSum) :: r.1.map fun s => (s.passingTime, s.distSum)).Chain' ProfileStep := by
  induction rest with
  | nil => intro v distSum passingTime found prev _; simp [passingLoop]
  | cons p rest ih =>
    intro v distSum passingTime found prev hv0
    have hd := calcDist2d_nonneg cm prev p
    obtain ⟨hnext, havg⟩ := nextVel_averageVel_pos hv ha hv0 hd
    set d := calcDist2d cm prev p
    set nextVel :=
      min (cm.sqrt (v ^ 2 + 2 * param.intersectionMaxAcc * d)) param.intersectionVelocity
    set avg := min ((v + nextVel) / 2) param.intersectionVelocity
    have hstep : ProfileStep (passingTime, distSum) (passingTime + d / avg, distSum + d) :=
      ⟨by simpa using div_nonneg hd havg.le, by simpa using hd,
        fun h => by simpa using div_pos (by simpa using h) havg⟩
    have hcap : avg ≤ param.intersectionVelocity := min_le_right _ _
    simp only [passingLoop]
    split
    · simp [hstep, havg, hcap]
    · obtain ⟨ih1, ih2⟩ := ih nextVel (distSum + d) (passingTime + d / avg)
        (hasLaneId p objectiveLaneId) p hnext
      exact ⟨List.forall_mem_cons.mpr ⟨⟨havg, hcap⟩, ih1⟩, List.chain'_cons.mpr ⟨hstep, ih2⟩⟩

/-- **The time-distance profile.** With a positive speed cap and a non-negative acceleration, for
every path, closest index, current velocity and lane id, the profile starts at `(0, 0)` (so it is
not empty), neither the time nor the arc length decreases along it, the time grows strictly over
every segment of positive length, and every average speed the loop divides by lies in
`(0, intersection_velocity]`. -/
theorem calcIntersectionPassingTime_profile (hv : 0 < param.intersectionVelocity)
    (ha : 0 ≤ param.intersectionMaxAcc) (currentVelocity : ℚ) (path : PathWithLaneId)
    (closestIdx : Nat) :
    IsTimeDistanceProfile
        (calcIntersectionPassingTime cm param objectiveLaneId currentVelocity path closestIdx) ∧
      ∀ s ∈ (passingSteps cm param objectiveLaneId currentVelocity path closestIdx).1,
        0 < s.averageVel ∧ s.averageVel ≤ param.intersectionVelocity := by
  have hspec : (∀ s ∈ (passingSteps cm param objectiveLaneId currentVelocity path closestIdx).1,
        0 < s.averageVel ∧ s.averageVel ≤ param.intersectionVelocity) ∧
      ((0, 0) :: (passingSteps cm param objectiveLaneId currentVelocity path closestIdx).1.map
        fun s => (s.passingTime, s.distSum)).Chain' ProfileStep := by
    unfold passingSteps
    split
    · simp
    · exact passingLoop_spec hv ha _ _ 0 0 false _ (lt_max_of_lt_left (by norm_num))
  simp only [calcIntersectionPassingTime]
  split
  · exact ⟨⟨rfl, hspec.2⟩, hspec.1⟩
  · exact ⟨⟨rfl, List.chain'_singleton _⟩, hspec.1⟩

theorem calcIntersectionPassingTime_profile_example :
    let param : PlannerParam := { (default : PlannerParam) with intersectionVelocity := 5 }
    let path : PathWithLaneId :=
      ⟨[⟨⟨⟨0, 0, 0⟩, 0⟩, 0, [7]⟩, ⟨⟨⟨3, 4, 0⟩, 0⟩, 0, [7]⟩, ⟨⟨⟨6, 8, 0⟩, 0⟩, 0, [8]⟩]⟩
    (0 < param.intersectionVelocity ∧ 0 ≤ param.intersectionMaxAcc) ∧
      IsTimeDistanceProfile (calcIntersectionPassingTime CMath.ratSqrt param 7 5 path 0) ∧
      ∀ s ∈ (passingSteps CMath.ratSqrt param 7 5 path 0).1,
        0 < s.averageVel ∧ s.averageVel ≤ param.intersectionVelocity :=
  have hv : (0 : ℚ) < 5 := by norm_num
  ⟨⟨hv, le_rfl⟩, calcIntersectionPassingTime_profile hv le_rfl 5 _ 0⟩

end

end IntersectionModule
end BehaviorVelocityPlanner
