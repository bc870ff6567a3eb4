import EdgeAgent.Cluster.Child
import EdgeAgent.Net.Address
import EdgeAgent.Time.TimeSpan

/-! The settings of the agent. -/

namespace EdgeAgent

/-- The form of the lines of the log. -/
inductive LogFormat where
  | plain
  | json
  deriving DecidableEq

/-- Where the cluster is, and as whom the agent speaks to it. What is not given is found out. -/
structure ClusterAccess where
  cluster : Option String := none
  context : Option String := none
  user : Option String := none
  /-- The path of the file that describes clusters and users. -/
  configuration : Option String := none
  actingUser : Option String := none
  actingGroup : Option String := none
  /-- How long an answer may take to begin. -/
  answerTimeout : TimeSpan := ⟨false, 9000000000⟩
  deriving DecidableEq

/-- The settings of the agent. -/
structure Settings where
  logFilter : String := "hub_agent=info,warn"
  logFormat : LogFormat := .plain
  access : ClusterAccess := {}
  adminAddress : ListenAddress := ⟨.v4 [0, 0, 0, 0], 8080⟩
  /-- Where requests are asked about. -/
  authAddress : ListenAddress := ⟨.v4 [0, 0, 0, 0], 9000⟩
  platformUrl : String
  token : String
  /-- The seconds between two passes. -/
  syncInterval : UInt64 := 30
  /-- The milliseconds that a call may take during a pass. -/
  syncTimeout : UInt64 := 20000
  /-- The number of changes of policies that are held back at most. -/
  queueSize : UInt64 := 1024
  child : ChildSettings := {}
  deriving DecidableEq

namespace Settings

/-- The message about settings with which the agent does not start. -/
def refusal? (s : Settings) : Option String :=
  if s.queueSize = 0 then some "--policy-queue-size must be positive" else none

end Settings

end EdgeAgent
