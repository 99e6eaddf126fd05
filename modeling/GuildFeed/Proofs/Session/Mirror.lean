import GuildFeed.Proofs.Session.Calls
import GuildFeed.Proofs.Store.Availability

namespace GuildFeed

/-- Who has heard of the events so far expects each guild that arrives to be called recovered or not
just as the event has it. -/
def Availability.Expects (a : Availability) : List Event → Prop
  | [] => True
  | e :: es =>
    (∀ guild recovered, e = .guildAvailable guild recovered → (recovered = true ↔ guild.id ∈ a.unavailable)) ∧
      (a.hear e).Expects es

namespace Availability

variable {a : Availability} {es fs : List Event}

theorem expects_append : a.Expects (es ++ fs) ↔ a.Expects es ∧ (es.foldl hear a).Expects fs := by
  induction es generalizing a with
  | nil => simp [Expects]
  | cons e es ih =>
    simp only [List.cons_append, List.foldl_cons, Expects, ih]
    exact (and_assoc).symm

theorem Expects.recovered {guild : GuildEntry} {recovered : Bool}
    (expects : a.Expects (es ++ .guildAvailable guild recovered :: fs)) :
    recovered = true ↔ guild.id ∈ (es.foldl hear a).unavailable :=
  (expects_append.1 expects).2.1 guild recovered rfl

end Availability

structure Tells (h k : Hub) (es : List Event) : Prop where
  published : k.bus = es.foldl Bus.publish h.bus
  heard : es.foldl Availability.hear h.store.availability = k.store.availability
  expects : h.store.availability.Expects es

namespace Tells

variable {h k l : Hub} {es fs : List Event}

theorem silent (store : k.store = h.store) (bus : k.bus = h.bus) : Tells h k [] where
  published := bus
  heard := congrArg Store.availability store.symm
  expects := trivial

theorem trans (first : Tells h k es) (second : Tells k l fs) : Tells h l (es ++ fs) where
  published := by rw [second.published, first.published, List.foldl_append]
  heard := by rw [List.foldl_append, first.heard, second.heard]
  expects := Availability.expects_append.2 ⟨first.expects, first.heard ▸ second.expects⟩

theorem publish (own : h.store.Ownership) {d : Dispatch} {t : Store} {e : Event}
    (accepted : h.store.update d = .ok (t, e)) : Tells h ({ h with store := t }.publish e) [e] := by
  have reports := Store.reports_update own accepted
  refine ⟨rfl, ?_, ?_, trivial⟩
  · rw [List.foldl_cons, List.foldl_nil, Store.hear_of_reports reports, ← Store.availability_update own accepted]
    rfl
  · rintro guild recovered rfl
    cases reports with
    | guildCreate up id before after =>
      rw [← before, id]
      exact Std.ExtTreeSet.contains_iff_mem

end Tells

namespace Session

variable {s : Session} {h : Hub}

theorem tells_foldl_drop (gs : List GuildId) {p : Session × Hub} (reachable : p.2.store.Reachable) :
    ∃ es, Tells p.2 (gs.foldl (fun (s, h) g => s.drop h g) p).2 es := by
  induction gs generalizing p with
  | nil => exact ⟨[], .silent rfl rfl⟩
  | cons g gs ih =>
    have first := Tells.publish reachable.ownership (d := .guildDelete ⟨g, false⟩) rfl
    have next := reachable.step (.dispatch (.guildDelete ⟨g, false⟩))
    obtain ⟨es, rest⟩ := ih (p := p.1.drop p.2 g) next
    exact ⟨_, first.trans rest⟩

theorem tells_prepared (reachable : h.store.Reachable) (s : Session) (d : Dispatch) :
    ∃ es, Tells h (s.prepared h d).2 es := by
  have counted : Tells h { h with counters := h.counters.countDispatch d } [] := .silent rfl rfl
  cases d with
  | ready r =>
    obtain ⟨es, dropped⟩ := tells_foldl_drop (s.gone r)
      (p := (s, { h with counters := h.counters.countDispatch (.ready r) })) reachable
    exact ⟨es, counted.trans dropped⟩
  | _ => exact ⟨[], counted⟩

theorem tells_apply (reachable : h.store.Reachable) (s : Session) (d : Dispatch) :
    ∃ es, Tells h (s.apply h d).2.1 es := by
  obtain ⟨es, prepared⟩ := tells_prepared reachable s d
  have ready := reachable_prepared reachable s d
  cases result : (s.prepared h d).2.store.update d with
  | ok p =>
    rw [apply_ok result]
    exact ⟨_, prepared.trans (.publish ready.ownership result)⟩
  | error err =>
    rw [apply_error result]
    exact ⟨_, prepared.trans (.silent rfl rfl)⟩

end Session

namespace Cluster

variable {ι : Type} [DecidableEq ι] {c : Cluster ι}

theorem tells_call (reachable : c.Reachable) (x : Call ι) : ∃ es, Tells c.hub (c.call x).1.hub es := by
  cases brings : x.dispatch? with
  | none =>
    obtain ⟨counters, same⟩ := call_none (c := c) brings
    rw [same]
    exact ⟨[], .silent rfl rfl⟩
  | some d =>
    obtain ⟨s, -, applied⟩ := call_some (c := c) brings
    rw [applied]
    exact Session.tells_apply reachable.store s d

theorem tells_serve (reachable : c.Reachable) (calls : List (Call ι)) :
    ∃ es, Tells c.hub (c.serve calls).hub es := by
  induction calls generalizing c with
  | nil => exact ⟨[], .silent rfl rfl⟩
  | cons x calls ih =>
    obtain ⟨es, first⟩ := tells_call reachable x
    obtain ⟨fs, rest⟩ := ih (reachable_call reachable x)
    exact ⟨es ++ fs, first.trans rest⟩

end Cluster

theorem Bus.pending_foldl_publish {b : Bus} {id : StreamId} (reached : b.Reaches id) (es : List Event) :
    (es.foldl publish b).pending id = b.pending id ++ es := by
  induction es generalizing b with
  | nil => simp
  | cons e es ih =>
    rw [List.foldl_cons, ih (reaches_publish.2 reached), pending_publish reached, List.append_assoc,
      List.singleton_append]

/-- Whoever subscribed before the first call knows after any calls which guilds are cached and which
are marked, and can tell each arrival from a recovery. -/
theorem Cluster.stream_mirrors_guilds {ι : Type} [DecidableEq ι] (b : Bus) (calls : List (Call ι)) :
    let start : Cluster ι := { Cluster.empty with hub.bus := b.subscribe.1 }
    let c := start.serve calls
    let told := c.hub.bus.pending b.subscribe.2
    told.foldl Availability.hear .empty = c.hub.store.availability ∧
      ∀ before guild recovered after, told = before ++ .guildAvailable guild recovered :: after →
        (recovered = true ↔ guild.id ∈ (before.foldl Availability.hear .empty).unavailable) := by
  intro start c told
  have reachable : start.Reachable := Reachable.empty.bus _
  obtain ⟨es, tells⟩ := tells_serve reachable calls
  have nothing : start.hub.store.availability = .empty := Store.availability_empty
  have all : told = es := by
    have published : c.hub.bus = es.foldl Bus.publish b.subscribe.1 := tells.published
    change c.hub.bus.pending b.next = es
    rw [published, Bus.pending_foldl_publish b.reaches_subscribe, Bus.pending_subscribe, if_pos rfl, List.nil_append]
  refine ⟨?_, ?_⟩
  · rw [all, ← nothing]
    exact tells.heard
  · rintro before guild recovered after split
    have expects := tells.expects
    rw [← all, split] at expects
    rw [← nothing]
    exact expects.recovered

end GuildFeed
