import GuildFeed.Text.Blank
import GuildFeed.Text.Numeral
import GuildFeed.Text.Quoted

namespace GuildFeed

structure Settings where
  queueCapacity : UInt64
  clusterId : UInt64
  deriving DecidableEq

namespace Settings

def default : Settings := ⟨1024, 0⟩

def capacityVariable : String := "STRATA_QUEUE_CAPACITY"

def clusterVariable : String := "STRATA_CLUSTER_ID"

inductive Fault
  | capacityText (given : String)
  | clusterText (given : String)
  | noCapacity
  deriving DecidableEq

def Fault.message : Fault → String
  | capacityText given =>
    capacityVariable ++ " must be a positive number, got " ++ Text.quote given
  | clusterText given => clusterVariable ++ " must end in a number, got " ++ Text.quote given
  | noCapacity => "queue capacity must be at least 1"

def readCapacity (given : String) : Except Fault UInt64 :=
  match Text.word? (Text.trim given.toList) with
  | some n => .ok n
  | none => .error (.capacityText given)

/-- A cluster is the numeral at the end of a name such as `strata-3`. -/
def readCluster (given : String) : Except Fault UInt64 :=
  match Text.word? (Text.lastSegment '-' (Text.trim given.toList)) with
  | some n => .ok n
  | none => .error (.clusterText given)

def check (s : Settings) : Except Fault Unit :=
  if s.queueCapacity = 0 then .error .noCapacity else .ok ()

def ofEnvironment (lookup : String → Option String) : Except Fault Settings := do
  let queueCapacity ←
    match lookup capacityVariable with
    | some given => readCapacity given
    | none => pure default.queueCapacity
  let clusterId ←
    match lookup clusterVariable with
    | some given => readCluster given
    | none => pure default.clusterId
  let s : Settings := ⟨queueCapacity, clusterId⟩
  s.check
  pure s

end Settings
end GuildFeed
