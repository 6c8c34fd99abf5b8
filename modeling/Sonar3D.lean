import Sonar3D.Hold
import Sonar3D.Runs
import Sonar3D.Sampling
import Sonar3D.CallbackQueue
import Sonar3D.PlanarRotation
import Sonar3D.DeadReckoning
import Sonar3D.SlidingMean
import Sonar3D.RateLimit
import Sonar3D.LeastBins
import Sonar3D.Struct
import Sonar3D.Units
import Sonar3D.Words
import Sonar3D.PrefixBuffer
import Sonar3D.ScanFloat
import Sonar3D.KeyStream
import Sonar3D.KeyLoop
import Sonar3D.Lines
import Sonar3D.Geometry
import Sonar3D.Img3D
import Sonar3D.Img3DPairing
import Sonar3D.Img3DRotation
import Sonar3D.Testfinal
import Sonar3D.TestfinalCloud
import Sonar3D.TestfinalScan
import Sonar3D.TestfinalMenu
import Sonar3D.TestfinalLines
import Sonar3D.TestfinalLaws
import Sonar3D.SonarReceive
import Sonar3D.SonarGate
import Sonar3D.SonarBearing
import Sonar3D.SonarStale
import Sonar3D.SonarKeys
import Sonar3D.SonarDeclared
import Sonar3D.SonarDistance
import Sonar3D.Tester
import Sonar3D.Talker
import Sonar3D.TalkerScan
import Sonar3D.TalkerBounds
import Sonar3D.System3D
import Sonar3D.System3DRotation
import Sonar3D.System3DScan
import Sonar3D.System3DKeys
import Sonar3D.System3DImages
import Sonar3D.Graph
import Sonar3D.GraphImage
import Sonar3D.GraphScan
import Sonar3D.ExternalControl
import Sonar3D.CloudThrottle
import Sonar3D.CloudToScan
import Sonar3D.TurtlebotDriver
import Sonar3D.TurtlebotSensors
import Sonar3D.TurtlebotNode
import Sonar3D.TurtlebotSafety
import Sonar3D.TurtlebotOdometry
import Sonar3D.TurtlebotGyro
import Sonar3D.LaptopBattery
