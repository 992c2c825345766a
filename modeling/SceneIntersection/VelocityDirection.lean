import Mathlib.Analysis.SpecialFunctions.Trigonometric.Angle
import Mathlib.Data.Real.Pi.Bounds
import SceneIntersection.CheckCollision
import SceneIntersection.AxisAligned

/-!
# The pose of a reversing object

`checkCollision` filters the objects by the heading of `getObjectPoseWithVelocityDirection`, meant
as the direction the object moves in. For an object whose orientation is not reliable and that
moves backwards (`twist.linear.x < 0`) that direction is its yaw turned by `π`; the function writes
`-yaw`, the mirror image of the yaw in the x-axis. Read as angles (the yaw taken from `ℚ` into `ℝ`,
then into `Real.Angle`), `-θ = θ + π` holds exactly when `2 • θ = π`, that is when `cos θ = 0`: the
two agree only for an object facing along the y-axis.

On the crossing an object on the eastbound lanelet 2 facing west and reversing moves east, the
lanelet's direction, yet the heading filter rejects the pose the code gives it.
-/

namespace BehaviorVelocityPlanner

open Real

theorem coe_neg_eq_coe_add_pi_iff (θ : ℝ) :
    ((-θ : ℝ) : Real.Angle) = (θ + π : ℝ) ↔ Real.cos θ = 0 := by
  rw [← Real.Angle.cos_coe, Real.Angle.cos_eq_zero_iff, ← Real.Angle.two_nsmul_eq_pi_iff,
    Real.Angle.coe_neg, Real.Angle.coe_add, ← sub_eq_iff_eq_add', neg_sub_left, neg_eq_iff_eq_neg,
    Real.Angle.neg_coe_pi, two_nsmul]

/-- The pose `getObjectPoseWithVelocityDirection` gives is the object's own pose unless the
orientation is unreliable and the object moves backwards; then its yaw is the direction of travel,
the yaw turned by `π`, only when `cos yaw = 0`. -/
theorem getObjectPoseWithVelocityDirection_yaw (s : ObjectState) :
    ((s.orientationReliable = true ∨ 0 ≤ s.twistX) → getObjectPoseWithVelocityDirection s = s.pose) ∧
      (s.orientationReliable = false → s.twistX < 0 →
        ((((getObjectPoseWithVelocityDirection s).yaw : ℝ) : Real.Angle) =
            ((s.pose.yaw : ℝ) + π : ℝ) ↔ Real.cos s.pose.yaw = 0)) := by
  refine ⟨fun h => ?_, fun hrel hback => ?_⟩
  · rcases h with h | h <;> simp [getObjectPoseWithVelocityDirection, h]
  · have hyaw : (getObjectPoseWithVelocityDirection s).yaw = -s.pose.yaw := by
      simp [getObjectPoseWithVelocityDirection, hrel, not_le.mpr hback]
    rw [hyaw, Rat.cast_neg, coe_neg_eq_coe_add_pi_iff]

namespace Crossing

/-- An object on lanelet 2 facing west (yaw 3) whose orientation is not reliable, reversing at
5 m/s: it moves east. -/
def reversingCar : ObjectState := ⟨⟨⟨50, 0, 0⟩, 3⟩, false, -5, []⟩

/-- The yaw the code gives the reversing car is not its direction of travel: `cos 3 < 0`. -/
theorem reversingCar_yaw_ne_travel :
    reversingCar.orientationReliable = false ∧ reversingCar.twistX < 0 ∧
      (((getObjectPoseWithVelocityDirection reversingCar).yaw : ℝ) : Real.Angle) ≠
        ((reversingCar.pose.yaw : ℝ) + π : ℝ) := by
  have hback : reversingCar.twistX < 0 := by norm_num [reversingCar]
  refine ⟨rfl, hback, fun h => ?_⟩
  have hcos : Real.cos 3 < 0 :=
    Real.cos_neg_of_pi_div_two_lt_of_lt (by linarith [Real.pi_le_four]) (by linarith [Real.pi_gt_three])
  have h0 := ((getObjectPoseWithVelocityDirection_yaw reversingCar).2 rfl hback).1 h
  norm_num [reversingCar] at h0
  linarith

/-- The heading filter on lanelet 2 rejects the pose the code gives the reversing car, and
accepts its direction of travel (`355/113` stands for `π` in `Util.grid`). -/
example :
    IntersectionModule.checkAngleForTargetLanelets (Util.grid CMath.ratSqrt) (plannerData 0 [])
        param (getObjectPoseWithVelocityDirection reversingCar) [2] = false ∧
      IntersectionModule.checkAngleForTargetLanelets (Util.grid CMath.ratSqrt) (plannerData 0 [])
        param { reversingCar.pose with yaw := 3 + 355 / 113 } [2] = true := by
  with_unfolding_all decide

end Crossing

end BehaviorVelocityPlanner
