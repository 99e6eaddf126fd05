import GuildFeed.Cluster
import GuildFeed.Intake

/-!
# The gateway

An intake at work. Whoever holds the handle sends envelopes, and in the end lets go of it and signals
to stop. A loop applies what was sent: at each turn it looks for the signal first and for an envelope
after that. The two go on side by side, so anything can happen between two steps of the loop.
-/

namespace GuildFeed

inductive Phase
  | watching
  | receiving
  | draining
  | ended
  deriving DecidableEq

structure Gateway where
  intake : Intake
  phase : Phase
  isHeld : Bool
  isSignalled : Bool
  isTaken : Bool
  heard : List Control

inductive Act
  | send (envelope : Envelope)
  | takeControl
  | hear (control : Control)
  | letGo
  | signal
  | look
  | close
  | apply (envelope : Envelope)
  | wait
  | finish

namespace Act

def sent? : Act → Option Envelope
  | send e => some e
  | _ => none

def applied? : Act → Option Envelope
  | apply e => some e
  | _ => none

def isOfLoop : Act → Bool
  | look | close | apply _ | wait | finish => true
  | _ => false

end Act

namespace Gateway

def fresh (s : Settings) (h : Hub) : Gateway := ⟨⟨s, [], false, .empty, h, []⟩, .watching, true, false, false, []⟩

inductive Step : Gateway → Act → Gateway → Prop
  | send {g : Gateway} {e : Envelope} (held : g.isHeld = true) (room : g.intake.hasRoom = true) :
    Step g (.send e) { g with intake := g.intake.enqueue e }
  | takeControl {g : Gateway} (held : g.isHeld = true) (there : g.isTaken = false) :
    Step g .takeControl { g with isTaken := true }
  | hear {g : Gateway} {c : Control} {cs : List Control} (taken : g.isTaken = true) (first : g.intake.control = c :: cs) :
    Step g (.hear c) { g with intake := { g.intake with control := cs }, heard := g.heard ++ [c] }
  | letGo {g : Gateway} (held : g.isHeld = true) : Step g .letGo { g with isHeld := false }
  | signal {g : Gateway} (free : g.isHeld = false) : Step g .signal { g with isSignalled := true }
  | look {g : Gateway} (watching : g.phase = .watching) (calm : g.isSignalled = false) :
    Step g .look { g with phase := .receiving }
  | close {g : Gateway} (watching : g.phase = .watching) (signalled : g.isSignalled = true) :
    Step g .close { g with intake := { g.intake with isStopped := true }, phase := .draining }
  | apply {g : Gateway} {e : Envelope} {es : List Envelope} (receiving : g.phase = .receiving)
    (first : g.intake.waiting = e :: es) :
    Step g (.apply e) { g with intake := g.intake.step, phase := .watching }
  | wait {g : Gateway} (receiving : g.phase = .receiving) : Step g .wait { g with phase := .watching }
  | finish {g : Gateway} (receiving : g.phase = .receiving) (none : g.intake.waiting = [])
    (free : g.isHeld = false) : Step g .finish { g with phase := .ended }
  | drain {g : Gateway} {e : Envelope} {es : List Envelope} (draining : g.phase = .draining)
    (first : g.intake.waiting = e :: es) : Step g (.apply e) { g with intake := g.intake.step }
  | drained {g : Gateway} (draining : g.phase = .draining) (none : g.intake.waiting = []) :
    Step g .finish { g with phase := .ended }

inductive Runs : Gateway → List Act → Gateway → Prop
  | nil (g : Gateway) : Runs g [] g
  | cons {g k l : Gateway} {a : Act} {acts : List Act} (first : Step g a k) (rest : Runs k acts l) :
    Runs g (a :: acts) l

/-- All that was sent was applied, in order and once, and has come to what it comes to one after the
other. The control stream, read or not, tells of it in order. -/
structure Settled (h : Hub) (acts : List Act) (g : Gateway) : Prop where
  once : acts.filterMap Act.applied? = acts.filterMap Act.sent?
  empty : g.intake.waiting = []
  session : g.intake.session = (Session.run .empty h (acts.filterMap Act.sent?)).1
  hub : g.intake.hub = (Session.run .empty h (acts.filterMap Act.sent?)).2.1
  control : g.heard ++ g.intake.control =
    (Session.run .empty h (acts.filterMap Act.sent?)).2.2.filterMap Outcome.control?

end Gateway
end GuildFeed
