import Mathlib.Algebra.Order.Field.Rat
import Mathlib.Tactic.Linarith

/-!
# Clock readings and durations

`rclcpp::Time` and `rclcpp::Duration` as the intersection module uses them. A clock reading is a
count of nanoseconds, the difference of two readings is a duration, and `seconds()` turns a
duration into the double that every threshold of the module is compared with. Doubles are exact
rationals throughout the model.

A reading is never negative: `rclcpp::Time(stamp)` throws on a stamp with a negative `sec`, so a
message stamp the module compares (lines 221, 317-318, 330-331, 591) is a non-negative count, and so is
`clock_->now()`.
-/

namespace BehaviorVelocityPlanner

/-- `rclcpp::Time`: a clock reading, in nanoseconds. -/
@[ext] structure Time where
  nanoseconds : Nat
deriving Repr

/-- Readings are compared by their nanoseconds, so that deciding an equality of readings
evaluates the integers. -/
instance : DecidableEq Time := fun a b =>
  decidable_of_iff (a.nanoseconds = b.nanoseconds) Time.ext_iff.symm

/-- `rclcpp::Duration`: the difference of two clock readings, in nanoseconds. -/
structure Duration where
  nanoseconds : Int
deriving DecidableEq, Repr

instance : HSub Time Time Duration := ⟨fun a b => ⟨(a.nanoseconds : Int) - b.nanoseconds⟩⟩

/-- `rclcpp::Duration::seconds`. -/
def Duration.seconds (d : Duration) : ℚ := d.nanoseconds / 1000000000

@[simp] theorem Time.sub_nanoseconds (a b : Time) :
    (a - b).nanoseconds = (a.nanoseconds : Int) - b.nanoseconds := rfl

@[simp] theorem Duration.seconds_sub_self (t : Time) : (t - t).seconds = 0 := by
  simp [Duration.seconds]

theorem Duration.seconds_sub_le_sub {a b c : Time} (h : a.nanoseconds ≤ b.nanoseconds) :
    (a - c).seconds ≤ (b - c).seconds := by
  simp only [Duration.seconds, Time.sub_nanoseconds]
  exact div_le_div_of_nonneg_right (Int.cast_le.mpr (Int.sub_le_sub_right (Int.ofNat_le.mpr h) _))
    (by norm_num)

end BehaviorVelocityPlanner
