import Std.Data.ExtTreeMap
import Std.Data.ExtTreeSet
import GuildFeed.Event
import GuildFeed.Queue

namespace GuildFeed

abbrev StreamId := Nat

/-- What a stream was sent and has not read. The count is kept beside the queue. -/
structure Inbox where
  queue : Queue Event
  unread : Int

namespace Inbox

def empty : Inbox := ⟨.empty, 0⟩

def put (i : Inbox) (e : Event) : Inbox := ⟨i.queue.push e, i.unread + 1⟩

def take? (i : Inbox) : Option (Event × Inbox) := do
  let (e, queue) ← i.queue.pop?
  pure (e, ⟨queue, i.unread - 1⟩)

end Inbox

structure Bus where
  senders : Std.ExtTreeSet StreamId
  streams : Std.ExtTreeMap StreamId Inbox
  next : StreamId
  isOpen : Bool

structure Delivery where
  streams : Std.ExtTreeMap StreamId Inbox
  reached : Nat
  closed : List StreamId

def Delivery.send (e : Event) (d : Delivery) (id : StreamId) : Delivery :=
  match d.streams[id]? with
  | some inbox => { d with streams := d.streams.insert id (inbox.put e), reached := d.reached + 1 }
  | none => { d with closed := d.closed ++ [id] }

namespace Bus

def empty : Bus := ⟨∅, ∅, 0, true⟩

def subscribe (b : Bus) : Bus × StreamId :=
  ({ b with senders := b.senders.insert b.next, streams := b.streams.insert b.next .empty, next := b.next + 1 },
    b.next)

def unsubscribe (b : Bus) (id : StreamId) : Bus :=
  { b with senders := b.senders.erase id, streams := b.streams.erase id }

def send (b : Bus) (e : Event) : Delivery := b.senders.toList.foldl (Delivery.send e) ⟨b.streams, 0, []⟩

def deliver (b : Bus) (e : Event) : Bus × Nat :=
  let d := b.send e
  ({ b with streams := d.streams, senders := d.closed.foldl .erase b.senders }, d.reached)

def publish (b : Bus) (e : Event) : Bus := (b.deliver e).1

def subscribers (b : Bus) : Nat := b.senders.size

def read? (b : Bus) (id : StreamId) : Option (Event × Bus) := do
  let (e, inbox) ← (← b.streams[id]?).take?
  pure (e, { b with streams := b.streams.insert id inbox })

def pending (b : Bus) (id : StreamId) : List Event :=
  ((b.streams[id]?).map fun inbox => inbox.queue.toList).getD []

def unread (b : Bus) (id : StreamId) : Int := ((b.streams[id]?).map Inbox.unread).getD 0

def backlog (b : Bus) (id : StreamId) : Nat := (b.unread id).toNat

def maxBacklog (b : Bus) : Nat := (b.senders.toList.map b.backlog).foldl max 0

def close (b : Bus) : Bus := { b with senders := ∅, isOpen := false }

def isEnded (b : Bus) (id : StreamId) : Bool := !b.senders.contains id && (b.pending id).isEmpty

end Bus

namespace Delivery

variable {e : Event} {d : Delivery} {ids : List StreamId}

theorem getElem?_send {id other : StreamId} :
    (d.send e id).streams[other]? =
      if id = other then (d.streams[other]?).map (·.put e) else d.streams[other]? := by
  cases found : d.streams[id]? with
  | none =>
    simp only [send, found]
    split
    · next same => rw [← same, found, Option.map_none]
    · rfl
  | some inbox =>
    simp only [send, found, Std.ExtTreeMap.getElem?_insert, Std.LawfulEqCmp.compare_eq_iff_eq]
    split
    · next same => rw [← same, found, Option.map_some]
    · rfl

theorem mem_streams_send {id other : StreamId} : other ∈ (d.send e id).streams ↔ other ∈ d.streams := by
  simp only [Std.ExtTreeMap.mem_iff_isSome_getElem?, getElem?_send]
  split <;> simp

theorem getElem?_foldl_send (distinct : ids.Nodup) (other : StreamId) :
    (ids.foldl (send e) d).streams[other]? =
      if other ∈ ids then (d.streams[other]?).map (·.put e) else d.streams[other]? := by
  induction ids generalizing d with
  | nil => simp
  | cons id ids ih =>
    obtain ⟨fresh, distinct⟩ := List.nodup_cons.1 distinct
    rw [List.foldl_cons, ih distinct, getElem?_send]
    by_cases same : id = other
    · subst same
      simp [fresh]
    · simp [same, Ne.symm same]

theorem foldl_send_counts :
    (ids.foldl (send e) d).reached = d.reached + (ids.filter (· ∈ d.streams)).length ∧
      (ids.foldl (send e) d).closed = d.closed ++ ids.filter (· ∉ d.streams) := by
  induction ids generalizing d with
  | nil => simp
  | cons id ids ih =>
    obtain ⟨reached, closed⟩ := ih (d := d.send e id)
    simp only [List.foldl_cons, reached, closed, mem_streams_send]
    have held := Std.ExtTreeMap.mem_iff_isSome_getElem? (t := d.streams) (a := id)
    cases found : d.streams[id]? with
    | none => simp [send, found, held]
    | some inbox => simp [send, found, held, Nat.add_assoc, Nat.add_comm 1]

end Delivery

namespace Bus

variable {b : Bus} {id : StreamId}

def Reaches (b : Bus) (id : StreamId) : Prop := id ∈ b.senders ∧ id ∈ b.streams

theorem nodup_toList (s : Std.ExtTreeSet StreamId) : s.toList.Nodup :=
  s.distinct_toList.imp fun apart same => apart (Std.LawfulEqCmp.compare_eq_iff_eq.2 same)

theorem getElem?_publish (b : Bus) (e : Event) (id : StreamId) :
    (b.publish e).streams[id]? =
      if id ∈ b.senders then (b.streams[id]?).map (·.put e) else b.streams[id]? := by
  change (b.send e).streams[id]? = _
  rw [send, Delivery.getElem?_foldl_send (nodup_toList _)]
  simp only [Std.ExtTreeSet.mem_toList]

theorem mem_streams_publish {e : Event} : id ∈ (b.publish e).streams ↔ id ∈ b.streams := by
  simp only [Std.ExtTreeMap.mem_iff_isSome_getElem?, getElem?_publish]
  split <;> simp

theorem mem_senders_publish {e : Event} : id ∈ (b.publish e).senders ↔ b.Reaches id := by
  have erased (ids : List StreamId) (s : Std.ExtTreeSet StreamId) :
      id ∈ ids.foldl .erase s ↔ id ∈ s ∧ id ∉ ids := by
    induction ids generalizing s with
    | nil => simp
    | cons other ids ih =>
      simp only [List.foldl_cons, ih, Std.ExtTreeSet.mem_erase, List.mem_cons, ne_eq,
        Std.LawfulEqCmp.compare_eq_iff_eq]
      grind
  change id ∈ (b.send e).closed.foldl .erase b.senders ↔ _
  rw [send, Delivery.foldl_send_counts.2, erased, List.nil_append, List.mem_filter, Std.ExtTreeSet.mem_toList,
    decide_eq_true_eq, Reaches]
  grind

theorem reaches_publish {e : Event} : (b.publish e).Reaches id ↔ b.Reaches id := by
  rw [Reaches, mem_senders_publish, mem_streams_publish]
  exact and_iff_left_of_imp And.right

theorem reaches_subscribe (b : Bus) : b.subscribe.1.Reaches b.next :=
  ⟨Std.ExtTreeSet.mem_insert_self, Std.ExtTreeMap.mem_insert_self⟩

theorem pending_subscribe (b : Bus) (id : StreamId) :
    b.subscribe.1.pending id = if b.next = id then [] else b.pending id := by
  simp only [subscribe, pending, Std.ExtTreeMap.getElem?_insert, Std.LawfulEqCmp.compare_eq_iff_eq]
  split <;> simp [Inbox.empty]

theorem pending_unsubscribe (b : Bus) (id other : StreamId) :
    (b.unsubscribe id).pending other = if id = other then [] else b.pending other := by
  simp only [unsubscribe, pending, Std.ExtTreeMap.getElem?_erase,
    Std.LawfulEqCmp.compare_eq_iff_eq]
  split <;> simp

theorem pending_publish (reached : b.Reaches id) (e : Event) :
    (b.publish e).pending id = b.pending id ++ [e] := by
  obtain ⟨inbox, found⟩ := Option.isSome_iff_exists.1 (Std.ExtTreeMap.mem_iff_isSome_getElem?.1 reached.2)
  rw [pending, pending, getElem?_publish, if_pos reached.1, found]
  exact Queue.toList_push ..

theorem pending_of_read? {b c : Bus} {id : StreamId} {e : Event} (h : b.read? id = some (e, c)) :
    b.pending id = e :: c.pending id ∧ ∀ other, id ≠ other → c.pending other = b.pending other := by
  simp only [read?, Inbox.take?, Option.bind_eq_bind, Option.bind_eq_some_iff, Option.pure_def,
    Option.some.injEq, Prod.mk.injEq] at h
  obtain ⟨inbox, found, ⟨a, rest⟩, ⟨⟨f, queue⟩, popped, rfl, rfl⟩, rfl, rfl⟩ := h
  constructor
  · simpa [pending, found] using Queue.toList_of_pop? popped
  · intro other ho
    simp [pending, Std.ExtTreeMap.getElem?_insert, ho]

end Bus
end GuildFeed
