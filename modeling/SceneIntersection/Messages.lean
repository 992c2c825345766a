import SceneIntersection.Time

/-!
# Messages and parameters

The parts of the ROS messages, of `PlannerData` and of `PlannerParam` that the intersection module
reads. Field names follow the messages (`object.state.predicted_paths` is
`o.state.predictedPaths`). A pose keeps its orientation as the yaw `tf2::getYaw` reads from it:
that is the only reading of an orientation the module makes, and the one write
(`getObjectPoseWithVelocityDirection`) keeps roll and pitch.
-/

namespace BehaviorVelocityPlanner

/-- A lanelet id (`int64_t`). Lanelets are addressed by id; the map answers the queries on them. -/
abbrev LaneId := Int

/-- `geometry_msgs::msg::Point`. -/
structure Point where
  x : ℚ
  y : ℚ
  z : ℚ
deriving DecidableEq, Repr

/-- `geometry_msgs::msg::Vector3`. -/
structure Vector3 where
  x : ℚ
  y : ℚ
  z : ℚ
deriving DecidableEq, Repr

/-- `geometry_msgs::msg::Pose`, with the orientation as its yaw. -/
structure Pose where
  position : Point
  yaw : ℚ
deriving DecidableEq, Repr

/-- `autoware_planning_msgs::msg::PathPointWithLaneId`; `velocity` is `point.twist.linear.x`. -/
structure PathPointWithLaneId where
  pose : Pose
  velocity : ℚ
  laneIds : List LaneId
deriving DecidableEq, Repr

/-- `autoware_planning_msgs::msg::PathWithLaneId`. -/
structure PathWithLaneId where
  points : List PathPointWithLaneId
deriving DecidableEq, Repr

/-- `geometry_msgs::msg::PoseWithCovarianceStamped`: a predicted pose and its stamp. -/
structure PoseStamped where
  stamp : Time
  pose : Pose
deriving DecidableEq, Repr

/-- `autoware_perception_msgs::msg::PredictedPath`. -/
structure PredictedPath where
  path : List PoseStamped
  confidence : ℚ
deriving DecidableEq, Repr

/-- `autoware_perception_msgs::msg::Semantic`. -/
structure Semantic where
  type : UInt8
deriving DecidableEq, Repr

namespace Semantic

def UNKNOWN : UInt8 := 0
def CAR : UInt8 := 1
def TRUCK : UInt8 := 2
def BUS : UInt8 := 3
def BICYCLE : UInt8 := 4
def MOTORBIKE : UInt8 := 5
def PEDESTRIAN : UInt8 := 6
def ANIMAL : UInt8 := 7

end Semantic

/-- `autoware_perception_msgs::msg::State`: `pose` is `pose_covariance.pose` and `twistX` is
`twist_covariance.twist.linear.x`. -/
structure ObjectState where
  pose : Pose
  orientationReliable : Bool
  twistX : ℚ
  predictedPaths : List PredictedPath
deriving DecidableEq, Repr

/-- `autoware_perception_msgs::msg::Shape`; `footprint` is the polygon's points. -/
structure Shape where
  type : UInt8
  dimensions : Vector3
  footprint : List Point
deriving DecidableEq, Repr

namespace Shape

def BOUNDING_BOX : UInt8 := 0
def CYLINDER : UInt8 := 1
def POLYGON : UInt8 := 2

end Shape

/-- `autoware_perception_msgs::msg::DynamicObject`. -/
structure DynamicObject where
  semantic : Semantic
  state : ObjectState
  shape : Shape
deriving DecidableEq, Repr

/-- `IntersectionModule::PlannerParam`. -/
structure PlannerParam where
  stateTransitMarginTime : ℚ
  decelVelocity : ℚ
  detectionAreaLength : ℚ
  detectionAreaMargin : ℚ
  detectionAreaAngleThr : ℚ
  minPredictedPathConfidence : ℚ
  collisionStartMarginTime : ℚ
  collisionEndMarginTime : ℚ
  intersectionVelocity : ℚ
  intersectionMaxAcc : ℚ
  stuckVehicleDetectDist : ℚ
  stuckVehicleIgnoreDist : ℚ
  stuckVehicleVelThr : ℚ
  externalInputTimeout : ℚ
deriving DecidableEq, Inhabited

/-- `autoware_api_msgs::msg::IntersectionStatus` as the external input: a status and its stamp. -/
structure IntersectionStatus where
  status : UInt8
  stamp : Time
deriving DecidableEq, Repr

/-! The two status constants of the message; the module only compares a status with them, and
nothing here depends on their values beyond their being different. -/
namespace IntersectionStatus

def STOP : UInt8 := 0
def GO : UInt8 := 1

end IntersectionStatus

/-- `autoware_planning_msgs::msg::StopFactor`. -/
structure StopFactor where
  stopPose : Pose
  stopFactorPoints : List Point
deriving DecidableEq, Repr

/-- `autoware_planning_msgs::msg::StopReason`. -/
structure StopReason where
  reason : String
  stopFactors : List StopFactor
deriving DecidableEq, Repr

end BehaviorVelocityPlanner
