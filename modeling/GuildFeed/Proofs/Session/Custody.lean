import GuildFeed.Proofs.Session.Calls

namespace GuildFeed

namespace Availability

def Apart (a : Availability) : Prop := ∀ g ∈ a.cached, g ∉ a.unavailable

namespace Apart

variable {a : Availability}

theorem arrive (apart : a.Apart) (g : GuildId) : (a.arrive g).Apart := by
  intro h cached marked
  rw [mem_cached_arrive] at cached
  rw [mem_unavailable_arrive] at marked
  rcases cached with same | cached
  · exact marked.1 same
  · exact apart h cached marked.2

theorem fail (apart : a.Apart) (g : GuildId) : (a.fail g).Apart := by
  intro h cached marked
  rw [mem_cached_fail] at cached
  rw [mem_unavailable_fail] at marked
  rcases marked with same | marked
  · exact cached.1 same
  · exact apart h cached.2 marked

theorem depart (apart : a.Apart) (g : GuildId) : (a.depart g).Apart := by
  intro h cached marked
  rw [mem_cached_depart] at cached
  rw [mem_unavailable_depart] at marked
  exact apart h cached.2 marked.2

theorem foldl {f : Availability → GuildId → Availability} (step : ∀ {a g}, Apart a → (f a g).Apart)
    (apart : a.Apart) (gs : List GuildId) : (gs.foldl f a).Apart := by
  induction gs generalizing a with
  | nil => exact apart
  | cons g gs ih => exact ih (step apart)

theorem follow (apart : a.Apart) (d : Dispatch) : (a.follow d).Apart := by
  cases d with
  | ready r => exact apart.foldl (fun apart => apart.fail _) r.listed
  | guildCreate g =>
    simp only [Availability.follow]
    split
    · exact apart.fail g.id
    · exact apart.arrive g.id
  | guildDelete n =>
    simp only [Availability.follow]
    split
    · exact apart.fail n.id
    · exact apart.depart n.id
  | _ => exact apart

end Apart
end Availability

theorem Session.keeps_or_takes {a : Availability} {d : Dispatch} {g : GuildId} (old : ∀ r, d ≠ .ready r)
    (cached : g ∈ (a.follow d).cached) :
    (∀ s : Session, g ∈ (s.follow d).owned) ∨
      g ∈ a.cached ∧ ∀ s : Session, g ∈ s.owned → g ∈ (s.follow d).owned := by
  cases d with
  | ready r => exact absurd rfl (old r)
  | guildCreate n =>
    simp only [Availability.follow] at cached
    cases down : n.unavailable with
    | true =>
      rw [down, if_pos rfl, Availability.mem_cached_fail] at cached
      simp only [follow, down]
      exact .inr ⟨cached.2, fun s owned => owned⟩
    | false =>
      simp only [down, Bool.false_eq_true, if_false, Availability.mem_cached_arrive] at cached
      simp only [follow, down, Bool.false_eq_true, if_false, Std.ExtTreeSet.mem_insert]
      rcases cached with same | cached
      · exact .inl fun s => .inl (by simp [same])
      · exact .inr ⟨cached, fun s owned => .inr owned⟩
  | guildDelete n =>
    simp only [Availability.follow] at cached
    cases down : n.unavailable with
    | true =>
      rw [down, if_pos rfl, Availability.mem_cached_fail] at cached
      simp only [follow, down]
      exact .inr ⟨cached.2, fun s owned => owned⟩
    | false =>
      simp only [down, Bool.false_eq_true, if_false, Availability.mem_cached_depart] at cached
      simp only [follow, down, Bool.false_eq_true, if_false, Std.ExtTreeSet.mem_erase]
      exact .inr ⟨cached.2, fun s owned => ⟨by simpa using cached.1, owned⟩⟩
  | _ => exact .inr ⟨cached, fun s owned => owned⟩

namespace Cluster

variable {ι : Type} [DecidableEq ι] {c : Cluster ι}

structure Custody (c : Cluster ι) : Prop where
  apart : c.hub.store.availability.Apart
  owned : ∀ g ∈ c.hub.store.availability.cached, ∃ i, g ∈ (c.sessions i).owned

namespace Custody

omit [DecidableEq ι] in
theorem empty : (Cluster.empty : Cluster ι).Custody := by
  have nothing : (Cluster.empty : Cluster ι).hub.store.availability = .empty := Store.availability_empty
  constructor <;> simp [nothing, Availability.Apart, Availability.empty]

theorem call (custody : c.Custody) (reachable : c.Reachable) (x : Call ι) : (c.call x).1.Custody := by
  cases brings : x.dispatch? with
  | none =>
    constructor
    · rw [availability_call_none brings]
      exact custody.apart
    · simp only [availability_call_none brings, owned_call_none brings]
      exact custody.owned
  | some d =>
    refine ⟨?_, fun g cached => ?_⟩
    · rw [availability_call_some reachable brings]
      exact (custody.apart.foldl (fun apart => apart.depart _) _).follow d
    · rw [availability_call_some reachable brings] at cached
      simp only [owned_call_some brings]
      rcases d.ready_or_old with ⟨r, rfl⟩ | old
      · -- what the shard owned is gone, so the owner is another one
        obtain ⟨-, disowned, cached⟩ := Session.mem_cached_ready.1 cached
        obtain ⟨i, owned⟩ := custody.owned g cached
        have other : i ≠ x.shard := by
          rintro rfl
          exact disowned owned
        exact ⟨i, by rwa [if_neg other]⟩
      · rw [Session.left_of_old old, List.foldl_nil] at cached
        rcases Session.keeps_or_takes old cached with taken | ⟨cached, kept⟩
        · exact ⟨x.shard, by rw [if_pos rfl]; exact taken _⟩
        · obtain ⟨i, owned⟩ := custody.owned g cached
          refine ⟨i, ?_⟩
          split
          · exact kept _ owned
          · exact owned

omit [DecidableEq ι] in
theorem fewer (custody : c.Custody) {s : Store}
    (cached : ∀ g ∈ s.availability.cached, g ∈ c.hub.store.availability.cached)
    (marks : s.availability.unavailable = c.hub.store.availability.unavailable) :
    Custody { c with hub.store := s } where
  apart g mem marked := custody.apart g (cached g mem) (marks ▸ marked)
  owned g mem := custody.owned g (cached g mem)

end Custody

theorem Guided.reachable (guided : c.Guided) : c.Reachable := by
  induction guided with
  | empty => exact .empty
  | call _ x ih => exact reachable_call ih x
  | remove _ k ih => exact ih.command (.remove k)
  | removeGuild _ g ih => exact ih.command (.removeGuild g)
  | clear _ ih => exact ih.command .clear

theorem Guided.custody (guided : c.Guided) : c.Custody := by
  induction guided with
  | empty => exact .empty
  | call guided x ih => exact ih.call guided.reachable x
  | @remove c _ k ih =>
    obtain ⟨cached, marks⟩ := Store.availability_without c.hub.store k
    exact ih.fewer cached marks
  | @removeGuild c _ g ih =>
    obtain ⟨cached, marks⟩ := Store.availability_without c.hub.store (.guild g)
    exact ih.fewer cached marks
  | clear _ ih =>
    have nothing : Store.empty.availability = .empty := Store.availability_empty
    constructor <;> simp [command, Store.step, Store.clear, nothing, Availability.Apart, Availability.empty]

/-- Nothing is cached and marked at once, and what is cached has an owner whose next connection
drops it. -/
theorem Guided.cached_guilds_owned (guided : c.Guided) :
    (∀ g, ¬ (c.hub.store.isCached g = true ∧ c.hub.store.isUnavailable g = true)) ∧
      ∀ g, c.hub.store.isCached g = true → ∃ i, g ∈ (c.sessions i).owned ∧
        ∀ r : Ready, (c.apply i (.ready r)).1.hub.store.isCached g = false := by
  have custody := guided.custody
  refine ⟨?_, fun g cached => ?_⟩
  · rintro g ⟨cached, marked⟩
    rw [Store.isCached_iff, ← Store.mem_cached_availability] at cached
    exact custody.apart g cached (Std.ExtTreeSet.contains_iff_mem.1 marked)
  · rw [Store.isCached_iff, ← Store.mem_cached_availability] at cached
    obtain ⟨i, owned⟩ := custody.owned g cached
    refine ⟨i, owned, fun r => ?_⟩
    rw [Bool.eq_false_iff, ne_eq, Store.isCached_iff, ← Store.mem_cached_availability]
    intro still
    have brings : (Call.apply i (.ready r)).dispatch? = some (.ready r) := rfl
    have after := availability_call_some guided.reachable brings
    have still : g ∈ (c.call (.apply i (.ready r))).1.hub.store.availability.cached := still
    rw [after] at still
    exact (Session.mem_cached_ready.1 still).2.1 owned

theorem cached_guilds_owned_of_two_shards :
    let c : Cluster Bool := (((empty.call (.apply true (.guildCreate (.bare ⟨1⟩)))).1.call
      (.apply false (.guildCreate (.bare ⟨2⟩)))).1).command (.removeGuild ⟨2⟩)
    c.Guided ∧ c.hub.store.isCached ⟨1⟩ = true ∧ ∃ i, ⟨1⟩ ∈ (c.sessions i).owned ∧
      ∀ r : Ready, (c.apply i (.ready r)).1.hub.store.isCached ⟨1⟩ = false := by
  intro c
  have guided : c.Guided := ((Guided.empty.call _).call _).removeGuild _
  have cached : c.hub.store.isCached ⟨1⟩ = true := by decide +kernel
  exact ⟨guided, cached, guided.cached_guilds_owned.2 ⟨1⟩ cached⟩

end Cluster
end GuildFeed
