import GuildFeed.Session
import GuildFeed.Store.Footprint
import GuildFeed.Store.History

namespace GuildFeed

namespace Outcome

def ofResult : Except StoreError Event → Outcome
  | .ok event => applied event
  | .error err => skipped err

def isApplied : Outcome → Bool
  | applied _ => true
  | _ => false

/-- The same end of processing; the events may tell different changes. -/
def Repeats : Outcome → Outcome → Prop
  | applied _, applied _ => True
  | skipped a, skipped b => a = b
  | forwarded a, forwarded b => a = b
  | undecodable a, undecodable b => a = b
  | _, _ => False

end Outcome

namespace Session

def run (s : Session) (h : Hub) : List Envelope → Session × Hub × List Outcome
  | [] => (s, h, [])
  | e :: es =>
    let (s, h, o) := s.process h e
    let (s, h, os) := s.run h es
    (s, h, o :: os)

def fruitful (s : Session) (h : Hub) : List Envelope → List Envelope
  | [] => []
  | e :: es =>
    let (s, h, o) := s.process h e
    if o.isApplied then e :: s.fruitful h es else s.fruitful h es

def heard (s : Session) (h : Hub) (es : List Envelope) : List Event :=
  let (bus, id) := h.bus.subscribe
  (s.run { h with bus } es).2.1.bus.pending id

end Session

inductive Call (ι : Type)
  | process (shard : ι) (envelope : Envelope)
  | apply (shard : ι) (dispatch : Dispatch)

namespace Call
variable {ι : Type}

def shard : Call ι → ι
  | process i _ | apply i _ => i

def dispatch? : Call ι → Option Dispatch
  | process _ e => e.dispatch?
  | apply _ d => some d

end Call

structure Cluster (ι : Type) where
  sessions : ι → Session
  hub : Hub

namespace Cluster
variable {ι : Type} [DecidableEq ι]

def empty : Cluster ι := ⟨fun _ => .empty, .empty⟩

def after (c : Cluster ι) (i : ι) (s : Session) (h : Hub) : Cluster ι where
  sessions j := if j = i then s else c.sessions j
  hub := h

def process (c : Cluster ι) (i : ι) (e : Envelope) : Cluster ι × Outcome :=
  let (s, h, o) := (c.sessions i).process c.hub e
  (c.after i s h, o)

def apply (c : Cluster ι) (i : ι) (d : Dispatch) : Cluster ι × Except StoreError Event :=
  let (s, h, r) := (c.sessions i).apply c.hub d
  (c.after i s h, r)

def call (c : Cluster ι) : Call ι → Cluster ι × Outcome
  | .process i e => c.process i e
  | .apply i d => ((c.apply i d).1, .ofResult (c.apply i d).2)

def serve (c : Cluster ι) (calls : List (Call ι)) : Cluster ι := calls.foldl (fun c x => (c.call x).1) c

def command (c : Cluster ι) (x : Command) : Cluster ι :=
  { c with hub.store := c.hub.store.step x }

def run (c : Cluster ι) : List (ι × Envelope) → Cluster ι × List (ι × Outcome)
  | [] => (c, [])
  | (i, e) :: calls =>
    let (c, o) := c.process i e
    let (c, os) := c.run calls
    (c, (i, o) :: os)

def ofShard {α : Type} (i : ι) (l : List (ι × α)) : List α :=
  l.filterMap fun (j, a) => if j = i then some a else none

/-- Streams that have no guild, channel, role or emoji in common, none of which is about the current
user. -/
structure Separate (streams : ι → List Envelope) : Prop where
  disjoint : ∀ i j, i ≠ j → ∀ e ∈ streams i, ∀ f ∈ streams j, ∀ k ∈ e.footprint, k ∉ f.footprint
  userless : ∀ i, ∀ e ∈ streams i, e.dispatch?.bind Dispatch.kind? ≠ some .userUpdate

inductive Reachable : Cluster ι → Prop
  | empty : Reachable empty
  | process {c : Cluster ι} (reachable : Reachable c) (i : ι) (e : Envelope) :
    Reachable (c.process i e).1
  | apply {c : Cluster ι} (reachable : Reachable c) (i : ι) (d : Dispatch) :
    Reachable (c.apply i d).1
  | command {c : Cluster ι} (reachable : Reachable c) (x : Command) : Reachable (c.command x)
  | bus {c : Cluster ι} (reachable : Reachable c) (b : Bus) : Reachable { c with hub.bus := b }

/-- What a cluster can come to as long as guilds are cached by its sessions only. -/
inductive Guided : Cluster ι → Prop
  | empty : Guided empty
  | call {c : Cluster ι} (guided : Guided c) (x : Call ι) : Guided (c.call x).1
  | remove {c : Cluster ι} (guided : Guided c) (k : EntityKey) : Guided (c.command (.remove k))
  | removeGuild {c : Cluster ι} (guided : Guided c) (g : GuildId) : Guided (c.command (.removeGuild g))
  | clear {c : Cluster ι} (guided : Guided c) : Guided (c.command .clear)

end Cluster
end GuildFeed
