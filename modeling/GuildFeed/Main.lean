import GuildFeed.Replay

namespace GuildFeed.Replay

partial def readAll (input : IO.FS.Stream) (octets : ByteArray) : IO ByteArray := do
  let more ← input.read 65536
  if more.isEmpty then return octets
  readAll input (octets ++ more)

def environment : IO (String → Option String) := do
  let capacity ← IO.getEnv Settings.capacityVariable
  let cluster ← IO.getEnv Settings.clusterVariable
  return fun name =>
    if name = Settings.capacityVariable then capacity
    else if name = Settings.clusterVariable then cluster
    else none

def report : Except Failure String → IO UInt32
  | .ok metrics => do
    IO.println metrics
    return 0
  | .error failure => do
    IO.eprintln failure.message
    return failure.exitCode

def program : IO UInt32 := do
  match start (← environment) with
  | .error failure => report (.error failure)
  | .ok intake =>
    let input ← readAll (← IO.getStdin) .empty
    report (finish intake input.toList)

end GuildFeed.Replay

def main : IO UInt32 := GuildFeed.Replay.program
