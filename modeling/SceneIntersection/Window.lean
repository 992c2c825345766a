import SceneIntersection.CheckCollision
import SceneIntersection.AxisAligned

/-!
# The time window of a predicted path

For a predicted path that meets the ego polygon, lines 316-340 of `checkCollision` turn the
stamps of the first and the last meeting pose into samples of the time-distance profile. On a
profile that starts at `(0, 0)` and is sorted in both fields (`IsSortedProfile`, as every result of
`calcIntersectionPassingTime` is) the binary searches are linear scans (`lowerBound_time_eq`), so
the start sample is the first sample at or after the widened entry time and the end sample the
first at or after the widened exit time, or the last sample. `timeDistanceItr_window` adds that
the start never comes after the end: the forward and the reverse `adjacent_find` meet the same
segments, so the entry pose comes no later than the exit pose.

`footprintLoop_window`: with `i` the first and `j` the last segment that meets the ego polygon,
`first_itr` is at `path[i]`, `last_itr` at `path[j + 1]` and `last_itr.base()` one past it, so the
footprint loop of lines 361-369 tests the poses `i` to `j + 1` in order and does not step past the
end of the path.
-/

namespace BehaviorVelocityPlanner
namespace IntersectionModule

section
variable {g : Geometry} {param : PlannerParam} {arr : TimeDistanceArray}

theorem lowerBound_time_eq (harr : IsSortedProfile arr) (value : ℚ) :
    lowerBound (fun a => decide (a.1 < value)) arr = arr.findIdx fun a => value ≤ a.1 := by
  rw [lowerBound_eq_findIdx _ _ (harr.time_sorted.imp fun hab hb => ?_)]
  · congr 1; funext a; rw [← decide_not]; simp only [not_lt]
  · simp only [decide_eq_true_eq] at hb ⊢
    exact lt_of_le_of_lt hab hb

theorem findIdx_time_lt_length {value : ℚ} (h : ∃ a ∈ arr, value ≤ a.1) :
    (arr.findIdx fun a => value ≤ a.1) < arr.length := by
  obtain ⟨a, ha, hle⟩ := h
  exact List.findIdx_lt_length_of_exists ⟨a, ha, by simpa using hle⟩

theorem findIdx_time_eq_length {value : ℚ} (h : ¬∃ a ∈ arr, value ≤ a.1) :
    (arr.findIdx fun a => value ≤ a.1) = arr.length :=
  List.findIdx_eq_length_of_false fun a ha => by simpa using fun hle => h ⟨a, ha, hle⟩

theorem findIdx_eq_zero_of_nonpos (harr : IsSortedProfile arr) {value : ℚ} (h : value ≤ 0) :
    (arr.findIdx fun a => value ≤ a.1) = 0 := by
  obtain ⟨a, rest, rfl⟩ := List.exists_cons_of_ne_nil harr.ne_nil
  obtain rfl : a = (0, 0) := by simpa using harr.head_eq
  simp [List.findIdx_cons, h]

theorem startTimeDistanceItr_eq (harr : IsSortedProfile arr) (enterTime : ℚ) :
    startTimeDistanceItr param arr enterTime =
      if ∃ a ∈ arr, enterTime - param.collisionStartMarginTime ≤ a.1 then
        some (arr.findIdx fun a => enterTime - param.collisionStartMarginTime ≤ a.1)
      else none := by
  unfold startTimeDistanceItr
  split
  · rw [lowerBound_time_eq harr]
    by_cases hex : ∃ a ∈ arr, enterTime - param.collisionStartMarginTime ≤ a.1
    · rw [if_pos hex, if_neg (findIdx_time_lt_length hex).ne]
    · rw [if_neg hex, if_pos (findIdx_time_eq_length hex)]
  · have h0 := not_lt.mp ‹_›
    rw [if_pos ⟨(0, 0), harr.zero_mem, h0⟩, findIdx_eq_zero_of_nonpos harr h0]

theorem endTimeDistanceItr_eq (harr : IsSortedProfile arr) (exitTime : ℚ) :
    endTimeDistanceItr param arr exitTime =
      if ∃ a ∈ arr, exitTime + param.collisionEndMarginTime ≤ a.1 then
        arr.findIdx fun a => exitTime + param.collisionEndMarginTime ≤ a.1
      else arr.length - 1 := by
  unfold endTimeDistanceItr
  rw [lowerBound_time_eq harr]
  by_cases hex : ∃ a ∈ arr, exitTime + param.collisionEndMarginTime ≤ a.1
  · rw [if_pos hex, if_neg (findIdx_time_lt_length hex).ne]
  · rw [if_neg hex, if_pos (findIdx_time_eq_length hex)]

theorem startTimeDistanceItr_le_end (harr : IsSortedProfile arr) {enterTime exitTime : ℚ}
    (hwin : enterTime - param.collisionStartMarginTime ≤ exitTime + param.collisionEndMarginTime)
    {i : Nat} (hi : startTimeDistanceItr param arr enterTime = some i) :
    i ≤ endTimeDistanceItr param arr exitTime := by
  rw [startTimeDistanceItr_eq harr] at hi
  split at hi
  · cases hi
    rw [endTimeDistanceItr_eq harr]
    split
    · exact List.findIdx_le_findIdx fun a _ h => by simpa using hwin.trans (by simpa using h)
    · have := findIdx_time_lt_length ‹∃ a ∈ arr, _›
      omega
  · cases hi

theorem startTimeDistanceItr_lt_length (harr : IsSortedProfile arr) {enterTime : ℚ} {i : Nat}
    (hi : startTimeDistanceItr param arr enterTime = some i) : i < arr.length := by
  rw [startTimeDistanceItr_eq harr] at hi
  split at hi
  · cases hi
    exact findIdx_time_lt_length ‹_›
  · cases hi

theorem endTimeDistanceItr_lt_length (harr : IsSortedProfile arr) (exitTime : ℚ) :
    endTimeDistanceItr param arr exitTime < arr.length := by
  have := List.length_pos_of_ne_nil harr.ne_nil
  rw [endTimeDistanceItr_eq harr]
  split
  · exact findIdx_time_lt_length ‹_›
  · omega

theorem segmentHitsEgo_comm (P : Polygon2d) (a b : PoseStamped) :
    segmentHitsEgo g P a b = segmentHitsEgo g P b a :=
  g.segmentIntersects_comm _ _ _

theorem stamp_le_of_le {path : List PoseStamped}
    (hstamps : (path.map (·.stamp.nanoseconds)).Pairwise (· ≤ ·)) {i j : Nat} (hij : i ≤ j)
    (hj : j < path.length) : path[i].stamp.nanoseconds ≤ path[j].stamp.nanoseconds := by
  rcases Nat.lt_or_eq_of_le hij with hlt | rfl
  · exact List.pairwise_iff_getElem.mp (List.pairwise_map.mp hstamps) _ _ _ _ hlt
  · exact le_rfl

theorem adjacentFind_reverse_last {P : Polygon2d} {path : List PoseStamped}
    (hlast : adjacentFind (segmentHitsEgo g P) path.reverse < path.length) :
    ∃ j, ∃ hj : j + 1 < path.length,
      path.length - adjacentFind (segmentHitsEgo g P) path.reverse = j + 2 ∧
      segmentHitsEgo g P path[j] path[j + 1] = true ∧
      ∀ k (hk : k + 1 < path.length), segmentHitsEgo g P path[k] path[k + 1] = true → k ≤ j := by
  obtain ⟨j, hj, hbase, hseg, hmax⟩ := adjacentFind_reverse_spec hlast
  exact ⟨j, hj, hbase, by rwa [segmentHitsEgo_comm],
    fun k hk h => hmax k hk (by rwa [segmentHitsEgo_comm])⟩

theorem first_le_last {P : Polygon2d} {path : List PoseStamped}
    (hlast : adjacentFind (segmentHitsEgo g P) path.reverse < path.reverse.length) :
    adjacentFind (segmentHitsEgo g P) path <
      path.length - adjacentFind (segmentHitsEgo g P) path.reverse := by
  obtain ⟨j, hj, hbase, hseg, -⟩ := adjacentFind_reverse_last (by simpa using hlast)
  have := adjacentFind_le hj hseg
  omega

theorem enterTime_le_exitTime {P : Polygon2d} {path : List PoseStamped}
    (hstamps : (path.map (·.stamp.nanoseconds)).Pairwise (· ≤ ·)) {first last pathFront : PoseStamped}
    (hfirst : deref path (adjacentFind (segmentHitsEgo g P) path) = .ok first)
    (hlast : deref path.reverse (adjacentFind (segmentHitsEgo g P) path.reverse) = .ok last) :
    (first.stamp - pathFront.stamp).seconds ≤ (last.stamp - pathFront.stamp).seconds := by
  obtain ⟨hi, rfl⟩ := deref_eq_ok hfirst
  obtain ⟨hk, rfl⟩ := deref_eq_ok hlast
  have horder := first_le_last hk
  apply Duration.seconds_sub_le_sub
  rw [List.getElem_reverse]
  exact stamp_le_of_le hstamps (by omega) _

/-- **The time window.** For a predicted path whose stamps are sorted and for which `*first_itr`
and `*last_itr` are read (the path meets the ego polygon), on a profile and with non-negative
margins, with the entry and exit times measured from any reference pose (`path.front()` in the
code): the start sample is the first sample at or after `enter − start_margin`
(the first sample when that is not positive), the path is skipped exactly when no sample reaches
`enter − start_margin`, the end sample is the first sample at or after `exit + end_margin` or the
last sample, and the start never comes after the end. -/
theorem timeDistanceItr_window (hsm : 0 ≤ param.collisionStartMarginTime)
    (hem : 0 ≤ param.collisionEndMarginTime) (harr : IsSortedProfile arr)
    {P : Polygon2d} {path : List PoseStamped}
    (hstamps : (path.map (·.stamp.nanoseconds)).Pairwise (· ≤ ·))
    {first last pathFront : PoseStamped}
    (hfirst : deref path (adjacentFind (segmentHitsEgo g P) path) = .ok first)
    (hlast : deref path.reverse (adjacentFind (segmentHitsEgo g P) path.reverse) = .ok last) :
    let enterTime := (first.stamp - pathFront.stamp).seconds
    let exitTime := (last.stamp - pathFront.stamp).seconds
    (∀ i, startTimeDistanceItr param arr enterTime = some i →
      i = (arr.findIdx fun a => enterTime - param.collisionStartMarginTime ≤ a.1) ∧
      (enterTime - param.collisionStartMarginTime ≤ 0 → i = 0)) ∧
    (startTimeDistanceItr param arr enterTime = none ↔
      ∀ a ∈ arr, a.1 < enterTime - param.collisionStartMarginTime) ∧
    endTimeDistanceItr param arr exitTime =
      (if ∃ a ∈ arr, exitTime + param.collisionEndMarginTime ≤ a.1 then
        arr.findIdx fun a => exitTime + param.collisionEndMarginTime ≤ a.1
      else arr.length - 1) ∧
    ∀ i, startTimeDistanceItr param arr enterTime = some i →
      i ≤ endTimeDistanceItr param arr exitTime := by
  intro enterTime exitTime
  have henter : enterTime ≤ exitTime := enterTime_le_exitTime hstamps hfirst hlast
  refine ⟨fun i h => ?_, ?_, endTimeDistanceItr_eq harr _,
    fun i h => startTimeDistanceItr_le_end harr (by linarith) h⟩
  · rw [startTimeDistanceItr_eq harr] at h
    split at h
    · cases h
      exact ⟨rfl, findIdx_eq_zero_of_nonpos harr⟩
    · cases h
  · rw [startTimeDistanceItr_eq harr, ite_eq_right_iff]
    simp only [reduceCtorEq, imp_false, not_exists, not_and, not_le]

end

theorem timeDistanceItr_window_crossing :
    let param : PlannerParam :=
      { (default : PlannerParam) with collisionStartMarginTime := 1, collisionEndMarginTime := 1 }
    let arr : TimeDistanceArray := [(0, 0), (2, 10), (4, 20), (6, 30), (8, 40)]
    let P := Box.toPolygon ⟨20, 40, -2, 2⟩
    let p0 : PoseStamped := ⟨⟨0⟩, ⟨⟨30, -10, 0⟩, 355 / 226⟩⟩
    let p2 : PoseStamped := ⟨⟨2000000000⟩, ⟨⟨30, -5, 0⟩, 355 / 226⟩⟩
    let p6 : PoseStamped := ⟨⟨6000000000⟩, ⟨⟨30, 5, 0⟩, 355 / 226⟩⟩
    let path := [p0, p2, ⟨⟨4000000000⟩, ⟨⟨30, 0, 0⟩, 355 / 226⟩⟩, p6]
    let g := Geometry.axisAligned
    (0 ≤ param.collisionStartMarginTime ∧ 0 ≤ param.collisionEndMarginTime ∧
      IsSortedProfile arr ∧ (path.map (·.stamp.nanoseconds)).Pairwise (· ≤ ·) ∧
      deref path (adjacentFind (segmentHitsEgo g P) path) = .ok p2 ∧
      deref path.reverse (adjacentFind (segmentHitsEgo g P) path.reverse) = .ok p6) ∧
    let enterTime := (p2.stamp - p0.stamp).seconds
    let exitTime := (p6.stamp - p0.stamp).seconds
    (∀ i, startTimeDistanceItr param arr enterTime = some i →
      i = (arr.findIdx fun a => enterTime - param.collisionStartMarginTime ≤ a.1) ∧
      (enterTime - param.collisionStartMarginTime ≤ 0 → i = 0)) ∧
    (startTimeDistanceItr param arr enterTime = none ↔
      ∀ a ∈ arr, a.1 < enterTime - param.collisionStartMarginTime) ∧
    endTimeDistanceItr param arr exitTime =
      (if ∃ a ∈ arr, exitTime + param.collisionEndMarginTime ≤ a.1 then
        arr.findIdx fun a => exitTime + param.collisionEndMarginTime ≤ a.1
      else arr.length - 1) ∧
    ∀ i, startTimeDistanceItr param arr enterTime = some i →
      i ≤ endTimeDistanceItr param arr exitTime := by
  intro param arr P p0 p2 p6 path g
  have hsm : 0 ≤ param.collisionStartMarginTime := by norm_num [param]
  have hem : 0 ≤ param.collisionEndMarginTime := by norm_num [param]
  have harr : IsSortedProfile arr := ⟨rfl, by norm_num [arr]⟩
  have hstamps : (path.map (·.stamp.nanoseconds)).Pairwise (· ≤ ·) := by decide
  have hfirst : deref path (adjacentFind (segmentHitsEgo g P) path) = .ok p2 := by
    rw [show adjacentFind (segmentHitsEgo g P) path = 1 by with_unfolding_all decide]; rfl
  have hlast : deref path.reverse (adjacentFind (segmentHitsEgo g P) path.reverse) = .ok p6 := by
    rw [show adjacentFind (segmentHitsEgo g P) path.reverse = 0 by with_unfolding_all decide]; rfl
  exact ⟨⟨hsm, hem, harr, hstamps, hfirst, hlast⟩, timeDistanceItr_window hsm hem harr hstamps hfirst hlast⟩

/-! ### The poses between the first and the last meeting segment -/

section
variable {g : Geometry}

theorem footprintLoop_eq_any (object : DynamicObject) (polygon : Polygon2d) {base itr : Nat}
    {poses : List PoseStamped} (h1 : itr ≤ base) (h2 : base ≤ itr + poses.length) :
    footprintLoop g object polygon base itr poses =
      .ok ((poses.take (base - itr)).any fun p =>
        g.intersects polygon (toPredictedFootprintPolygon g object p)) := by
  induction itr, poses using footprintLoop.induct g object polygon base with
  | case1 => simp [footprintLoop]
  | case2 itr he => simp only [List.length_nil] at h2; omega
  | case3 => simp [footprintLoop]
  | case4 itr p rest he hp =>
    obtain ⟨m, hm⟩ : ∃ m, base - itr = m + 1 := ⟨base - itr - 1, by omega⟩
    simp [footprintLoop, he, hp, hm]
  | case5 itr p rest he hp ih =>
    obtain ⟨m, hm⟩ : ∃ m, base - itr = m + 1 := ⟨base - itr - 1, by omega⟩
    have hrest := ih (by omega) (by simp only [List.length_cons] at h2; omega)
    rw [show base - (itr + 1) = m by omega] at hrest
    simpa [footprintLoop, he, hp, hm] using hrest

/-- **The poses the footprint loop visits.** For every predicted path whose `*first_itr` and
`*last_itr` are read inside it, let `i` be the first and `j` the last segment `path[k]`–`path[k+1]`
that meets the ego polygon. Then `first_itr` is at `path[i]`, `*last_itr` is `path[j + 1]`,
`last_itr.base()` is at `j + 2`, one past it, and `i ≤ j`; for every object and trimmed polygon,
the footprint loop from `first_itr` to `last_itr.base()` tests the footprints of `path[i]`, …,
`path[j + 1]` in order and ends without a fault. -/
theorem footprintLoop_window {P : Polygon2d} {path : List PoseStamped} {first last : PoseStamped}
    (hfirst : deref path (adjacentFind (segmentHitsEgo g P) path) = .ok first)
    (hlast : deref path.reverse (adjacentFind (segmentHitsEgo g P) path.reverse) = .ok last) :
    ∃ i j, ∃ (hi : i + 1 < path.length) (hj : j + 1 < path.length),
      (segmentHitsEgo g P path[i] path[i + 1] = true ∧ segmentHitsEgo g P path[j] path[j + 1] = true ∧
        ∀ k (hk : k + 1 < path.length), segmentHitsEgo g P path[k] path[k + 1] = true →
          i ≤ k ∧ k ≤ j) ∧
      adjacentFind (segmentHitsEgo g P) path = i ∧ first = path[i] ∧ last = path[j + 1] ∧
      path.length - adjacentFind (segmentHitsEgo g P) path.reverse = j + 2 ∧ i ≤ j ∧
      ∀ object polygon, footprintLoop g object polygon
          (path.length - adjacentFind (segmentHitsEgo g P) path.reverse)
          (adjacentFind (segmentHitsEgo g P) path) (path.drop (adjacentFind (segmentHitsEgo g P) path)) =
        .ok (((path.drop i).take (j + 2 - i)).any fun p =>
          g.intersects polygon (toPredictedFootprintPolygon g object p)) := by
  obtain ⟨hi, rfl⟩ := deref_eq_ok hfirst
  obtain ⟨hk, rfl⟩ := deref_eq_ok hlast
  obtain ⟨hi1, hsegi⟩ := adjacentFind_spec hi
  obtain ⟨j, hj, hbase, hsegj, hmax⟩ := adjacentFind_reverse_last (by simpa using hk)
  have hij := adjacentFind_le hj hsegj
  refine ⟨_, j, hi1, hj, ⟨hsegi, hsegj, fun k hk hseg => ⟨adjacentFind_le hk hseg, hmax k hk hseg⟩⟩,
    rfl, rfl, ?_, hbase, hij, fun object polygon => ?_⟩
  · rw [List.getElem_reverse]
    congr 1
    omega
  · rw [hbase, footprintLoop_eq_any object polygon (by omega) (by simp only [List.length_drop]; omega)]

end

open Crossing in
theorem footprintLoop_window_crossing :
    let P := Box.toPolygon ⟨20, 40, -2, 2⟩
    let path :=
      [predictedPose 0 30 (-10), predictedPose 2 30 (-5), predictedPose 4 30 0, predictedPose 6 30 5]
    let g := Geometry.axisAligned
    (deref path (adjacentFind (segmentHitsEgo g P) path) = .ok (predictedPose 2 30 (-5)) ∧
      deref path.reverse (adjacentFind (segmentHitsEgo g P) path.reverse) =
        .ok (predictedPose 6 30 5)) ∧
    ∃ i j, ∃ (hi : i + 1 < path.length) (hj : j + 1 < path.length),
      (segmentHitsEgo g P path[i] path[i + 1] = true ∧ segmentHitsEgo g P path[j] path[j + 1] = true ∧
        ∀ k (hk : k + 1 < path.length), segmentHitsEgo g P path[k] path[k + 1] = true →
          i ≤ k ∧ k ≤ j) ∧
      adjacentFind (segmentHitsEgo g P) path = i ∧ predictedPose 2 30 (-5) = path[i] ∧
      predictedPose 6 30 5 = path[j + 1] ∧
      path.length - adjacentFind (segmentHitsEgo g P) path.reverse = j + 2 ∧ i ≤ j ∧
      ∀ object polygon, footprintLoop g object polygon
          (path.length - adjacentFind (segmentHitsEgo g P) path.reverse)
          (adjacentFind (segmentHitsEgo g P) path) (path.drop (adjacentFind (segmentHitsEgo g P) path)) =
        .ok (((path.drop i).take (j + 2 - i)).any fun p =>
          g.intersects polygon (toPredictedFootprintPolygon g object p)) := by
  intro P path g
  have hfirst : deref path (adjacentFind (segmentHitsEgo g P) path) = .ok (predictedPose 2 30 (-5)) := by
    rw [show adjacentFind (segmentHitsEgo g P) path = 1 by with_unfolding_all decide]; rfl
  have hlast : deref path.reverse (adjacentFind (segmentHitsEgo g P) path.reverse) =
      .ok (predictedPose 6 30 5) := by
    rw [show adjacentFind (segmentHitsEgo g P) path.reverse = 0 by with_unfolding_all decide]; rfl
  exact ⟨⟨hfirst, hlast⟩, footprintLoop_window hfirst hlast⟩

end IntersectionModule
end BehaviorVelocityPlanner
