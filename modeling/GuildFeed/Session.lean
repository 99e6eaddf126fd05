import GuildFeed.Bus
import GuildFeed.Decoding
import GuildFeed.Metrics
import GuildFeed.Store.Update

namespace GuildFeed

structure Hub where
  store : Store
  counters : Counters
  bus : Bus

namespace Hub

def empty : Hub := ⟨.empty, .zero, .empty⟩

def publish (h : Hub) (e : Event) : Hub := { h with bus := h.bus.publish e }

def metrics (h : Hub) (cluster : UInt64) : String :=
  Metrics.text cluster h.counters h.store.guildGauge h.store.memberGauge

end Hub

structure Session where
  /-- The guilds that the connection has delivered and not lost since. -/
  owned : Std.ExtTreeSet GuildId
  highest : Nat
  deriving DecidableEq

inductive Outcome
  | applied (event : Event)
  | skipped (error : StoreError)
  | forwarded (signal : Signal)
  | undecodable (error : DecodeError)

namespace Session

def empty : Session := ⟨∅, 0⟩

def lastSequence? (s : Session) : Option Nat := if s.highest = 0 then none else some s.highest

def record (s : Session) (sequence : Option UInt64) : Session :=
  { s with highest := max s.highest ((sequence.map UInt64.toNat).getD 0) }

/-- Follows which guilds are owned. An outage does not end ownership. -/
def track (s : Session) : Event → Session
  | .ready _ guilds _ => { s with owned := .ofList guilds }
  | .guildAvailable guild _ => { s with owned := s.owned.insert guild.id }
  | .guildUnavailable id false _ => { s with owned := s.owned.erase id }
  | _ => s

def accept (s : Session) (h : Hub) (store : Store) (e : Event) : Session × Hub :=
  (s.track e, ({ h with store }).publish e)

def gone (s : Session) (r : Ready) : List GuildId :=
  s.owned.toList.filter (· ∉ r.listed)

def drop (s : Session) (h : Hub) (g : GuildId) : Session × Hub :=
  let (store, e) := h.store.onGuildDelete ⟨g, false⟩
  s.accept h store e

/-- Before a new session counts, the guilds of the old one that it does not list are dropped. -/
def reconcile (s : Session) (h : Hub) (r : Ready) : Session × Hub :=
  (s.gone r).foldl (fun (s, h) g => s.drop h g) (s, h)

def prepare (s : Session) (h : Hub) : Dispatch → Session × Hub
  | .ready r => s.reconcile h r
  | _ => (s, h)

def apply (s : Session) (h : Hub) (d : Dispatch) : Session × Hub × Except StoreError Event :=
  let (s, h) := s.prepare { h with counters := h.counters.countDispatch d } d
  match h.store.update d with
  | .ok (store, e) =>
    let (s, h) := s.accept h store e
    (s, h, .ok e)
  | .error err => (s, { h with counters := h.counters.countSkip }, .error err)

def process (s : Session) (h : Hub) (e : Envelope) : Session × Hub × Outcome :=
  match e.decode with
  | .error err => (s, { h with counters := h.counters.countFailure }, .undecodable err)
  | .ok (.signal signal) => (s, h, .forwarded signal)
  | .ok (.dispatch sequence d) =>
    let (s, h, r) := (s.record sequence).apply h d
    match r with
    | .ok event => (s, h, .applied event)
    | .error err => (s, h, .skipped err)

end Session
end GuildFeed
