import GuildFeed.Intake

namespace GuildFeed.Replay

inductive Failure
  | refused (refusal : Intake.Refusal)
  | notText
  deriving DecidableEq

namespace Failure

def message : Failure → String
  | refused (.settings fault) => fault.message
  | refused .tooMuchRoom => "queue capacity is too large"
  | notText => "input is not UTF-8"

def exitCode : Failure → UInt32
  | refused .tooMuchRoom => 101
  | refused (.settings _) | notText => 1

end Failure

def start (lookup : String → Option String) : Except Failure Intake :=
  match Settings.ofEnvironment lookup with
  | .error fault => .error (.refused (.settings fault))
  | .ok s => (Intake.start s .empty).mapError .refused

def lines? (input : Json.Octets) : Option (List String) :=
  (Text.Utf8.decode? input).map (·.splitOn "\n")

def envelope? (line : String) : Option Envelope :=
  (Envelope.parse (Text.Utf8.encode line)).toOption

def envelopes (lines : List String) : List Envelope := lines.filterMap envelope?

def metrics (i : Intake) (lines : List String) : String := (i.run (envelopes lines)).metrics

def finish (i : Intake) (input : Json.Octets) : Except Failure String :=
  match lines? input with
  | some lines => .ok (metrics i lines)
  | none => .error .notText

def run (lookup : String → Option String) (input : Json.Octets) : Except Failure String := do
  finish (← start lookup) input

end GuildFeed.Replay
