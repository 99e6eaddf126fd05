import GuildFeed.Session
import GuildFeed.Settings

namespace GuildFeed

inductive Control
  | forward (signal : Signal)
  | failed (error : DecodeError)

def Outcome.control? : Outcome → Option Control
  | .forwarded signal => some (.forward signal)
  | .undecodable e => some (.failed e)
  | _ => none

structure Intake where
  settings : Settings
  waiting : List Envelope
  isStopped : Bool
  session : Session
  hub : Hub
  control : List Control

namespace Intake

inductive Refusal
  | settings (fault : Settings.Fault)
  | tooMuchRoom
  deriving DecidableEq

/-- A queue counts its free places in a word of 61 bits. -/
def mostRoom : Nat := 0x1fffffffffffffff

def start (s : Settings) (h : Hub) : Except Refusal Intake :=
  match s.check with
  | .error fault => .error (.settings fault)
  | .ok () =>
    if mostRoom < s.queueCapacity.toNat then .error .tooMuchRoom
    else .ok ⟨s, [], false, .empty, h, []⟩

def hasRoom (i : Intake) : Bool :=
  !i.isStopped && i.waiting.length < i.settings.queueCapacity.toNat

def enqueue (i : Intake) (e : Envelope) : Intake := { i with waiting := i.waiting ++ [e] }

def handle (i : Intake) (e : Envelope) : Intake :=
  let (session, hub, outcome) := i.session.process i.hub e
  { i with session, hub, control := i.control ++ outcome.control?.toList }

def step (i : Intake) : Intake :=
  match i.waiting with
  | [] => i
  | e :: rest => ({ i with waiting := rest }).handle e

def send (i : Intake) (e : Envelope) : Intake :=
  (if i.hasRoom then i else i.step).enqueue e

def stop (i : Intake) : Intake :=
  i.waiting.foldl handle { i with waiting := [], isStopped := true }

def run (i : Intake) (es : List Envelope) : Intake := (es.foldl send i).stop

def metrics (i : Intake) : String := i.hub.metrics i.settings.clusterId

end Intake
end GuildFeed
