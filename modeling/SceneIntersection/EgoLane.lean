import SceneIntersection.CheckCollision
import SceneIntersection.AxisAligned

/-!
# The ego lane and its next lanelet

`getEgoLaneWithNextLane` scans the path backwards for the last point whose first lane id is
`lane_id_`, and reads the next lanelet at `last_itr.base()`, one past that point in forward order
(`getEgoLaneWithNextLane_of_base`). On a path whose points all have a lane the three cases are
(`getEgoLaneWithNextLane_cases`):

* the last such point is followed by another: the next lanelet is that point's first lane id;
* the last such point is the last point of the path: the ego lane is the assigned lanelet alone;
* no point has `lane_id_` first: the scan ends at `crend()`, whose `base()` is `begin()`, not
  `end()`, so the first point's lanelet is read as the next lanelet.
-/

namespace BehaviorVelocityPlanner

theorem findIdx_reverse_of_last {α : Type} {p : α → Bool} {l : List α} {i : Nat}
    (hi : i < l.length) (hp : p l[i]) (hlast : ∀ k (hk : k < l.length), i < k → p l[k] = false) :
    l.reverse.findIdx p = l.length - 1 - i := by
  rw [List.findIdx_eq (by simp; omega), List.getElem_reverse]
  refine ⟨by simpa [Nat.sub_sub_self (by omega : i ≤ l.length - 1)] using hp, fun j hj => ?_⟩
  rw [List.getElem_reverse]
  exact hlast _ _ (by omega)

namespace IntersectionModule

section
variable {laneId : LaneId}

theorem isFirstLaneId_ok {p : PathPointWithLaneId} (h : p.laneIds ≠ []) :
    isFirstLaneId laneId p = .ok (p.laneIds.head? == some laneId) := by
  obtain ⟨a, as, ha⟩ := List.exists_cons_of_ne_nil h
  simp [isFirstLaneId, ha, front, bind, Except.bind, pure, Except.pure]

theorem findIf_isFirstLaneId {points : List PathPointWithLaneId}
    (h : ∀ p ∈ points, p.laneIds ≠ []) :
    findIf (isFirstLaneId laneId) points =
      .ok (points.findIdx fun p => p.laneIds.head? == some laneId) :=
  findIf_ok fun p hp => isFirstLaneId_ok (h p hp)

theorem getEgoLaneWithNextLane_of_base {path : PathWithLaneId} {base : Nat}
    (hlanes : ∀ p ∈ path.points, p.laneIds ≠ [])
    (hbase : path.points.length -
      path.points.reverse.findIdx (fun p => p.laneIds.head? == some laneId) = base) :
    getEgoLaneWithNextLane laneId path =
      if h : base < path.points.length then
        (front path.points[base].laneIds).map fun next => [laneId, next]
      else .ok [laneId] := by
  subst hbase
  simp only [getEgoLaneWithNextLane, findIf_isFirstLaneId fun p hp => hlanes p (List.mem_reverse.mp hp),
    bind, Except.bind]
  split
  · rw [dif_pos (by omega), deref_of_lt (by omega)]
    dsimp only
    cases front _ <;> rfl
  · rw [dif_neg (by omega)]
    rfl

theorem getEgoLaneWithNextLane_of_last {path : PathWithLaneId}
    (hlanes : ∀ p ∈ path.points, p.laneIds ≠ []) {i : Nat} (hi : i < path.points.length)
    (hlane : path.points[i].laneIds.head? = some laneId)
    (hlast : ∀ k (hk : k < path.points.length), i < k → path.points[k].laneIds.head? ≠ some laneId) :
    getEgoLaneWithNextLane laneId path =
      if h : i + 1 < path.points.length then
        (front path.points[i + 1].laneIds).map fun next => [laneId, next]
      else .ok [laneId] := by
  have hidx := findIdx_reverse_of_last (p := fun (q : PathPointWithLaneId) => q.laneIds.head? == some laneId)
    hi (by simpa using hlane) fun k hk hik => by simpa using hlast k hk hik
  exact getEgoLaneWithNextLane_of_base hlanes (by omega)

/-- `getEgoLaneWithNextLane` on a non-empty path whose points all have a lane: the next lanelet is
read one past the last point whose first lane id is `lane_id_`; when that point ends the path the
ego lane is the assigned lanelet alone; when no point has `lane_id_` first, the next lanelet is
read at the first point. -/
theorem getEgoLaneWithNextLane_cases {path : PathWithLaneId} (hne : path.points ≠ [])
    (hlanes : ∀ p ∈ path.points, p.laneIds ≠ []) :
    (∀ i (hi : i + 1 < path.points.length), path.points[i].laneIds.head? = some laneId →
        (∀ k (hk : k < path.points.length), i < k → path.points[k].laneIds.head? ≠ some laneId) →
        getEgoLaneWithNextLane laneId path =
          (front path.points[i + 1].laneIds).map fun next => [laneId, next]) ∧
      ((path.points.getLast hne).laneIds.head? = some laneId →
        getEgoLaneWithNextLane laneId path = .ok [laneId]) ∧
      ((∀ p ∈ path.points, p.laneIds.head? ≠ some laneId) →
        getEgoLaneWithNextLane laneId path =
          (front (path.points.head hne).laneIds).map fun next => [laneId, next]) := by
  have hn : 0 < path.points.length := List.length_pos.mpr hne
  refine ⟨fun i hi hlane hlast => ?_, fun hlane => ?_, fun hnone => ?_⟩
  · -- the last point on the lane is followed by another
    rw [getEgoLaneWithNextLane_of_last hlanes (by omega) hlane hlast, dif_pos hi]
  · -- the last point of the path is on the lane
    rw [getEgoLaneWithNextLane_of_last hlanes (i := path.points.length - 1) (by omega)
      (by simpa [List.getLast_eq_getElem] using hlane) fun k hk hik => by omega, dif_neg (by omega)]
  · -- no point is on the lane: `last_itr.base()` is `begin()`
    have hbase : path.points.length - path.points.reverse.findIdx
        (fun p => p.laneIds.head? == some laneId) = 0 := by
      rw [List.findIdx_eq_length_of_false fun p hp => by simpa using hnone p (List.mem_reverse.mp hp),
        List.length_reverse, Nat.sub_self]
    rw [getEgoLaneWithNextLane_of_base hlanes hbase, dif_pos hn, List.head_eq_getElem]

end

open Crossing in
/-- The module of the intersection lanelet 1 on the path from `x = 40`, past lanelet 1: no point has
lane id 1, and the ego lane gets the first point's lanelet 2 as its next lanelet. -/
theorem getEgoLaneWithNextLane_past_lanelet :
    ((path.points.drop 4 ≠ [] ∧ ∀ p ∈ path.points.drop 4, p.laneIds ≠ []) ∧
      ∀ p ∈ path.points.drop 4, p.laneIds.head? ≠ some 1) ∧
    getEgoLaneWithNextLane 1 ⟨path.points.drop 4⟩ = .ok [1, 2] :=
  ⟨⟨⟨by decide, by decide⟩, by decide⟩,
    (@getEgoLaneWithNextLane_cases 1 ⟨path.points.drop 4⟩ (by decide) (by decide)).2.2
      (by decide)⟩

end IntersectionModule

end BehaviorVelocityPlanner
