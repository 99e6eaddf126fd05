import Mathlib.Data.Fintype.Basic
import Mathlib.Logic.Function.Basic
import GuildFeed.Proofs.Session.Twins
import GuildFeed.Proofs.Store.Union

/-!
# Shards do not interfere

Shards that share a hub, but no guild, channel, role or emoji, go on as each would with a hub of its
own, in whatever order their envelopes are processed. One step of one shard is one step of its twin
that runs alone; for every other shard nothing changes in its scope.
-/

namespace GuildFeed

namespace Session

variable {s : Session} {h : Hub}

theorem run_cons (s : Session) (h : Hub) (e : Envelope) (es : List Envelope) :
    s.run h (e :: es) =
      let next := (s.process h e).1.run (s.process h e).2.1 es
      (next.1, next.2.1, (s.process h e).2.2 :: next.2.2) := rfl

theorem reachable_run (reachable : h.store.Reachable) (s : Session) (es : List Envelope) :
    (s.run h es).2.1.store.Reachable := by
  induction es generalizing s h with
  | nil => exact reachable
  | cons e es ih => exact ih (reachable_process reachable s e) _

end Session

namespace Cluster

variable {ι : Type} [DecidableEq ι]

theorem ofShard_cons {α : Type} (i j : ι) (a : α) (l : List (ι × α)) :
    ofShard i ((j, a) :: l) = if j = i then a :: ofShard i l else ofShard i l := by
  unfold ofShard
  by_cases same : j = i
  · simp [same]
  · simp [same]

theorem mem_ofShard {α : Type} {i : ι} {a : α} {l : List (ι × α)} (mem : (i, a) ∈ l) : a ∈ ofShard i l :=
  List.mem_filterMap.2 ⟨(i, a), mem, if_pos rfl⟩

theorem run_cons (c : Cluster ι) (i : ι) (e : Envelope) (calls : List (ι × Envelope)) :
    c.run ((i, e) :: calls) =
      let next := (c.process i e).1.run calls
      (next.1, (i, (c.process i e).2) :: next.2) := rfl

theorem Reachable.run {c : Cluster ι} (reachable : c.Reachable) (calls : List (ι × Envelope)) :
    (c.run calls).1.Reachable := by
  induction calls generalizing c with
  | nil => exact reachable
  | cons call calls ih => exact ih (reachable.process call.1 call.2)

structure Apart (scopes : ι → EntityKey → Prop) (c : Cluster ι) (alone : ι → Session × Hub) : Prop where
  shared : ∀ i, Twins (scopes i) c.hub.store (c.sessions i, c.hub) (alone i)
  alone : ∀ i, (alone i).2.store.Agree (¬ scopes i ·) .empty
  rest : c.hub.store.Agree (fun k => ∀ i, ¬ scopes i k) .empty

def ahead (p : Session × Hub) (es : List Envelope) : Session × Hub := ((p.1.run p.2 es).1, (p.1.run p.2 es).2.1)

namespace Apart

variable {scopes : ι → EntityKey → Prop} {c : Cluster ι} {alone : ι → Session × Hub}

omit [DecidableEq ι] in
theorem empty : Apart scopes Cluster.empty fun _ => (.empty, .empty) where
  shared i :=
    { session := rfl
      owned := fun g mem => by simp [Cluster.empty, Session.empty] at mem
      tidy := Store.tidy_empty
      inside := .refl _ _
      outside := .refl _ _ }
  alone _ := .refl _ _
  rest := .refl _ _

theorem process (apart : Apart scopes c alone) (disjoint : ∀ i j k, scopes i k → scopes j k → i = j) {j : ι}
    {e : Envelope} (within : ∀ k ∈ e.footprint, scopes j k) (other : ∀ u, e.dispatch? ≠ some (.userUpdate u)) :
    (c.process j e).2 = ((alone j).1.process (alone j).2 e).2.2 ∧
      Apart scopes (c.process j e).1 (Function.update alone j (ahead (alone j) [e])) := by
  obtain ⟨same, moved⟩ := (apart.shared j).process within other
  have lone : Twins (scopes j) .empty (alone j) (alone j) :=
    { session := rfl
      owned := (apart.shared j).session ▸ (apart.shared j).owned
      tidy := (apart.shared j).tidy.congr (apart.shared j).inside
      inside := .refl _ _
      outside := apart.alone j }
  refine ⟨same, fun i => ?_, fun i => ?_, ?_⟩
  · by_cases mine : i = j
    · subst mine
      have own : (c.process i e).1.sessions i = ((c.sessions i).process c.hub e).1 := if_pos rfl
      rw [Function.update_self, own]
      exact { moved with outside := .refl _ _ }
    · -- what the step changes is in the scope of the other shard
      have kept : (c.process j e).1.hub.store.Agree (scopes i) c.hub.store :=
        moved.outside.mono fun k hi hj => mine (disjoint i j k hi hj)
      have own : (c.process j e).1.sessions i = c.sessions i := if_neg mine
      rw [Function.update_of_ne mine, own]
      exact
        { session := (apart.shared i).session
          owned := (apart.shared i).owned
          tidy := (apart.shared i).tidy.congr kept.symm
          inside := kept.trans (apart.shared i).inside
          outside := .refl _ _ }
  · by_cases mine : i = j
    · subst mine
      rw [Function.update_self]
      exact (lone.process within other).2.outside
    · rw [Function.update_of_ne mine]
      exact apart.alone i
  · exact (moved.outside.mono fun k free => free j).trans apart.rest

theorem run (apart : Apart scopes c alone) (disjoint : ∀ i j k, scopes i k → scopes j k → i = j)
    {calls : List (ι × Envelope)} (within : ∀ i e, (i, e) ∈ calls → ∀ k ∈ e.footprint, scopes i k)
    (other : ∀ i e, (i, e) ∈ calls → ∀ u, e.dispatch? ≠ some (.userUpdate u)) :
    (∀ i, ofShard i (c.run calls).2 = ((alone i).1.run (alone i).2 (ofShard i calls)).2.2) ∧
      Apart scopes (c.run calls).1 fun i => ahead (alone i) (ofShard i calls) := by
  induction calls generalizing c alone with
  | nil => exact ⟨fun _ => rfl, apart⟩
  | cons call calls ih =>
    obtain ⟨j, e⟩ := call
    obtain ⟨same, next⟩ := apart.process disjoint (within j e List.mem_cons_self) (other j e List.mem_cons_self)
    obtain ⟨outcomes, apart⟩ := ih next (fun i e mem => within i e (List.mem_cons_of_mem _ mem))
      fun i e mem => other i e (List.mem_cons_of_mem _ mem)
    constructor
    · intro i
      have later := outcomes i
      rw [run_cons, ofShard_cons, ofShard_cons]
      by_cases mine : j = i
      · subst mine
        rw [Function.update_self] at later
        rw [if_pos rfl, if_pos rfl, later, Session.run_cons, same]
        rfl
      · rw [Function.update_of_ne (Ne.symm mine)] at later
        rw [if_neg mine, if_neg mine, later]
    · have caughtUp : (fun i => ahead (Function.update alone j (ahead (alone j) [e]) i) (ofShard i calls)) =
          fun i => ahead (alone i) (ofShard i ((j, e) :: calls)) := by
        funext i
        rw [ofShard_cons]
        by_cases mine : j = i
        · subst mine
          rw [Function.update_self, if_pos rfl]
          rfl
        · rw [Function.update_of_ne (Ne.symm mine), if_neg mine]
      rw [← caughtUp]
      exact apart

end Apart

/-- Shards that have no guild, channel, role or emoji in common do not interfere: in whatever order
their envelopes are processed, each comes to the same outcomes and the same session as alone, and
the shared store is the union of those that they would come to alone. -/
theorem run_separate [Fintype ι] (streams : ι → List Envelope) (separate : Separate streams)
    (calls : List (ι × Envelope)) (order : ∀ i, ofShard i calls = streams i) :
    let shared := Cluster.empty.run calls
    let alone i := Session.empty.run .empty (streams i)
    (∀ i, ofShard i shared.2 = (alone i).2.2) ∧ (∀ i, shared.1.sessions i = (alone i).1) ∧
      shared.1.hub.store.IsUnion fun i => (alone i).2.1.store := by
  intro shared alone
  let scopes (i : ι) (k : EntityKey) : Prop := ∃ e ∈ streams i, k ∈ e.footprint
  have disjoint : ∀ i j k, scopes i k → scopes j k → i = j := by
    rintro i j k ⟨e, sent, mem⟩ ⟨f, sent', mem'⟩
    by_contra other
    exact separate.disjoint i j other e sent f sent' k mem mem'
  have sent : ∀ i e, (i, e) ∈ calls → e ∈ streams i := fun i e mem => order i ▸ mem_ofShard mem
  have userless : ∀ i e, (i, e) ∈ calls → ∀ u, e.dispatch? ≠ some (.userUpdate u) := by
    intro i e mem u brings
    apply separate.userless i e (sent i e mem)
    rw [brings]
    rfl
  have start : Apart scopes Cluster.empty fun _ => (.empty, .empty) := .empty
  obtain ⟨outcomes, apart⟩ := start.run disjoint (fun i e mem k foot => ⟨e, sent i e mem, foot⟩) userless
  simp only [order] at outcomes apart
  refine ⟨outcomes, fun i => (apart.shared i).session, ?_⟩
  apply Store.isUnion_of_agree (Reachable.empty.run calls).store
  · exact fun i => Session.reachable_run .empty _ _
  · exact disjoint
  · exact fun i => (apart.shared i).inside
  · exact apart.rest
  · exact apart.alone

def sent (event : String) (fields : List (String × Json)) : Envelope :=
  ⟨Envelope.opDispatch, some event, none, .object fields⟩

def founding (guild : String) : Envelope :=
  sent "GUILD_CREATE" [("id", .string guild), ("owner_id", .string "5"),
    ("members", .array [.object [("user", .object [("id", .string "5")])]])]

def departure : Envelope :=
  sent "GUILD_MEMBER_REMOVE" [("guild_id", .string "1"), ("user", .object [("id", .string "5")])]

def stray : Envelope :=
  sent "CHANNEL_CREATE" [("id", .string "20"), ("type", .integer 0), ("guild_id", .string "3")]

def restart : Envelope := sent "READY" [("user", .object [("id", .string "7")])]

def coasts (west : Bool) : List Envelope :=
  if west then [founding "2", stray, restart] else [founding "1", departure]

def interleaved : List (Bool × Envelope) :=
  [(true, founding "2"), (false, founding "1"), (true, stray), (false, departure), (true, restart)]

theorem run_separate_coasts :
    Separate coasts ∧ (∀ west, ofShard west interleaved = coasts west) ∧
      (let shared := Cluster.empty.run interleaved
       let alone west := Session.empty.run .empty (coasts west)
       (∀ west, ofShard west shared.2 = (alone west).2.2) ∧ (∀ west, shared.1.sessions west = (alone west).1) ∧
         shared.1.hub.store.IsUnion fun west => (alone west).2.1.store) ∧
      (Cluster.empty.run interleaved).2.map (·.2.isApplied) = [true, true, false, true, true] ∧
      (Cluster.empty.run interleaved).1.hub.store.guilds.keys = [⟨1⟩] := by
  have separate : Separate coasts := ⟨by decide +kernel, by decide +kernel⟩
  have order : ∀ west, ofShard west interleaved = coasts west := by decide +kernel
  exact ⟨separate, order, run_separate coasts separate interleaved order, by decide +kernel, by decide +kernel⟩

end Cluster
end GuildFeed
