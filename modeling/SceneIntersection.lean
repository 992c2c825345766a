import SceneIntersection.Time
import SceneIntersection.StateMachine
import SceneIntersection.Messages
import SceneIntersection.Libraries
import SceneIntersection.AxisAligned
import SceneIntersection.StdAlgorithm
import SceneIntersection.PassingTime
import SceneIntersection.CheckCollision
import SceneIntersection.VelocityDirection
import SceneIntersection.EgoLane
import SceneIntersection.Window
import SceneIntersection.CollisionLoop
import SceneIntersection.ModifyPathVelocity
import SceneIntersection.Cycles
import SceneIntersection.Decision
