import GuildFeed.Bus
import Mathlib.Data.Set.Card
import Mathlib.Order.Bounds.Basic

namespace GuildFeed.Bus

inductive Call
  | subscribe
  | publish (event : Event)
  | read (id : StreamId)
  | drop (id : StreamId)

inductive Happening
  | subscribed (id : StreamId)
  | published (event : Event)
  | read (id : StreamId) (event : Option Event)
  | dropped (id : StreamId)

def call (b : Bus) : Call → Bus × Happening
  | .subscribe => (b.subscribe.1, .subscribed b.subscribe.2)
  | .publish e => (b.publish e, .published e)
  | .read id =>
    match b.read? id with
    | some (e, b) => (b, .read id (some e))
    | none => (b, .read id none)
  | .drop id => (b.unsubscribe id, .dropped id)

def serve (b : Bus) : List Call → Bus × List Happening
  | [] => (b, [])
  | x :: xs =>
    let (b, y) := b.call x
    let (b, ys) := b.serve xs
    (b, y :: ys)

def Happening.published? : Happening → Option Event
  | published e => some e
  | _ => none

def Happening.readBy? (id : StreamId) : Happening → Option Event
  | read other e => if other = id then e else none
  | _ => none

def since? (id : StreamId) : List Happening → Option (List Happening)
  | [] => none
  | .subscribed other :: log => if other = id then some log else since? id log
  | _ :: log => since? id log

/-- A stream was given out and is not dropped. The rest of the log is what happened since. -/
def AliveSince (log : List Happening) (id : StreamId) (rest : List Happening) : Prop :=
  since? id log = some rest ∧ .dropped id ∉ rest

def Alive (log : List Happening) (id : StreamId) : Prop := ∃ rest, AliveSince log id rest

/-- All streams got what the log says they should have got. -/
structure Delivers (b : Bus) (log : List Happening) : Prop where
  exact : ∀ id rest, AliveSince log id rest →
    rest.filterMap (·.readBy? id) ++ b.pending id = rest.filterMap (·.published?)
  reads : ∀ id, Alive log id → (b.read? id).map Prod.fst = (b.pending id).head?
  counts : ∀ id, Alive log id → b.unread id = (b.pending id).length ∧ b.backlog id = (b.pending id).length
  reaches : ∀ e, (b.deliver e).2 = {id | Alive log id}.ncard
  subscribers : b.subscribers = {id | Alive log id}.ncard
  largest : IsGreatest (insert 0 ((fun id => (b.pending id).length) '' {id | Alive log id})) b.maxBacklog

end GuildFeed.Bus
