import GuildFeed.Proofs.Session.Narration
import GuildFeed.Proofs.Store.Clearing

namespace GuildFeed

namespace Store

theorem farewells_unmark (s : Store) (g : GuildId) (gs : List GuildId) :
    (s.unmark g).farewells gs = s.farewells gs := by
  induction gs generalizing s with
  | nil => rfl
  | cons h gs ih => exact congrArg _ (ih (s.withoutGuild h))

theorem left?_farewells (s : Store) (gs : List GuildId) : (s.farewells gs).map Event.left? = gs.map some := by
  induction gs generalizing s with
  | nil => rfl
  | cons g gs ih => exact congrArg _ (ih (s.withoutGuild g))

end Store

namespace Session

variable {s : Session} {h : Hub}

theorem nodup_gone (s : Session) (r : Ready) : (s.gone r).Nodup := by
  have distinct : s.owned.toList.Nodup :=
    s.owned.distinct_toList.imp fun apart same => apart (Std.LawfulEqCmp.compare_eq_iff_eq.2 same)
  exact distinct.filter _

theorem foldl_drop_clears (gs : List GuildId) (s : Session) (h : Hub) :
    let dropped := gs.foldl (fun (s, h) g => s.drop h g) (s, h)
    h.store.Clears gs dropped.2.store ∧ dropped.2.bus = (h.store.farewells gs).foldl Bus.publish h.bus := by
  induction gs generalizing s h with
  | nil => exact ⟨.refl _, rfl⟩
  | cons g gs ih =>
    obtain ⟨cleared, told⟩ := ih (s.drop h g).1 (s.drop h g).2
    have one : h.store.Clears [g] ((h.store.withoutGuild g).unmark g) :=
      ⟨(Store.Clears.withoutGuild h.store g).get?, (Store.Clears.withoutGuild h.store g).isListed⟩
    have rest : (s.drop h g).2.store.farewells gs = (h.store.withoutGuild g).farewells gs :=
      Store.farewells_unmark (h.store.withoutGuild g) g gs
    refine ⟨one.trans cleared, ?_⟩
    rw [List.foldl_cons, told, rest]
    rfl

theorem apply_ready (s : Session) (h : Hub) (r : Ready) :
    let news := s.apply h (.ready r)
    news.2.2 = .ok (.ready r.user r.listed r.sessionId) ∧
      h.store.Clears (s.gone r ++ r.listed) news.2.1.store ∧ news.2.1.store.currentUser = some r.user ∧
      news.2.1.bus = (h.store.farewells (s.gone r) ++ [Event.ready r.user r.listed r.sessionId]).foldl Bus.publish h.bus := by
  obtain ⟨cleared, told⟩ :=
    foldl_drop_clears (s.gone r) s { h with counters := h.counters.countDispatch (.ready r) }
  have accepted : (s.prepared h (.ready r)).2.store.update (.ready r) =
      .ok ((s.prepared h (.ready r)).2.store.onReady r) := rfl
  have listed := Store.Clears.dropListed ((s.prepared h (.ready r)).2.store.setUser r.user) r.listed
  rw [apply_ok accepted]
  refine ⟨rfl, cleared.trans ⟨listed.get?, listed.isListed⟩, Store.currentUser_dropListed _ _, ?_⟩
  rw [List.foldl_append]
  exact congrArg (Bus.publish · _) told

end Session

namespace Cluster

variable {ι : Type} [DecidableEq ι]

def Concerns (c : Cluster ι) (i : ι) (r : Ready) (g : GuildId) : Prop := g ∈ (c.sessions i).owned ∨ g ∈ r.listed

structure StartsOver (c : Cluster ι) (i : ι) (r : Ready) (d : Cluster ι) : Prop where
  uncached : ∀ g, c.Concerns i r g → d.hub.store.isCached g = false
  ownerless : ∀ g, c.Concerns i r g → ∀ k e, d.hub.store.get? k = some e → e.owner? ≠ some g
  marked : ∀ g ∈ r.listed, d.hub.store.isUnavailable g = true
  unmarked : ∀ g ∈ (c.sessions i).owned, g ∉ r.listed → d.hub.store.isUnavailable g = false
  otherMarks : ∀ g, ¬ c.Concerns i r g → d.hub.store.isUnavailable g = c.hub.store.isUnavailable g
  otherGuilds : ∀ g, ¬ c.Concerns i r g → d.hub.store.guild? g = c.hub.store.guild? g
  covered : ∀ g, c.Concerns i r g → ∀ k, c.hub.store.covers g k = true → d.hub.store.get? k = none
  others : ∀ k, (∀ g, c.Concerns i r g → c.hub.store.covers g k = false) →
    d.hub.store.get? k = c.hub.store.get? k
  owned : (d.sessions i).owned = .ofList r.listed
  user : d.hub.store.currentUser = some r.user
  sessions : ∀ j ≠ i, d.sessions j = c.sessions j

omit [DecidableEq ι] in
theorem mem_gone_append {c : Cluster ι} {i : ι} {r : Ready} {g : GuildId} :
    g ∈ (c.sessions i).gone r ++ r.listed ↔ c.Concerns i r g := by
  rw [List.mem_append, Session.mem_gone, Concerns]
  by_cases listed : g ∈ r.listed <;> simp [listed]

theorem startsOver_of_clears {c d : Cluster ι} {i : ι} {r : Ready} (reachable : d.Reachable)
    (clears : c.hub.store.Clears ((c.sessions i).gone r ++ r.listed) d.hub.store)
    (marks : ∀ g, g ∈ d.hub.store.unavailable ↔
      g ∈ r.listed ∨ g ∉ (c.sessions i).owned ∧ g ∈ c.hub.store.unavailable)
    (owned : (d.sessions i).owned = .ofList r.listed) (user : d.hub.store.currentUser = some r.user)
    (sessions : ∀ j ≠ i, d.sessions j = c.sessions j) : c.StartsOver i r d := by
  have covered (g : GuildId) (concerned : c.Concerns i r g) (k : EntityKey) (covers : c.hub.store.covers g k = true) :
      d.hub.store.get? k = none := by
    rw [clears.get?, if_pos]
    exact List.any_eq_true.2 ⟨g, mem_gone_append.2 concerned, covers⟩
  have others (k : EntityKey) (uncovered : ∀ g, c.Concerns i r g → c.hub.store.covers g k = false) :
      d.hub.store.get? k = c.hub.store.get? k := by
    rw [clears.get?, if_neg]
    intro covers
    obtain ⟨g, mem, covers⟩ := List.any_eq_true.1 covers
    rw [uncovered g (mem_gone_append.1 mem)] at covers
    cases covers
  have mark (g : GuildId) : d.hub.store.isUnavailable g = true ↔
      g ∈ r.listed ∨ g ∉ (c.sessions i).owned ∧ c.hub.store.isUnavailable g = true := by
    simpa [Store.isUnavailable] using marks g
  exact
    { uncached := fun g concerned => by
        have gone := covered g concerned (.guild g) (by simp [Store.covers])
        rw [Bool.eq_false_iff, ne_eq, Store.isCached_iff, Std.ExtTreeMap.mem_iff_isSome_getElem?]
        have absent : d.hub.store.guild? g = none := Option.map_eq_none_iff.1 gone
        rw [Store.guild?] at absent
        simp [absent]
      ownerless := fun g concerned k e found owner => by
        have listed := (reachable.store.ownership.listed found owner).2
        rw [clears.isListed, if_pos (mem_gone_append.2 concerned)] at listed
        cases listed
      marked := fun g listed => (mark g).2 (.inl listed)
      unmarked := fun g mem unlisted => by
        rw [Bool.eq_false_iff, ne_eq, mark]
        simp [mem, unlisted]
      otherMarks := fun g other => by
        rw [Concerns, not_or] at other
        rw [Bool.eq_iff_iff, mark]
        simp [other]
      otherGuilds := fun g other => by
        have same := others (.guild g) fun h concerned => by
          have ne : g ≠ h := by
            rintro rfl
            exact other concerned
          simp [Store.covers, Store.isListed, ne]
        exact Option.map_injective (fun _ _ => Entity.guild.inj) same
      covered
      others
      owned
      user
      sessions }

/-- A new connection is never refused. It clears the guilds of the old connection and its own, and
leaves all else. For every guild that it does not list there is one event before its own, which
tells what went with the guild. -/
theorem Reachable.starts_over {c : Cluster ι} (reachable : c.Reachable) {x : Call ι} {r : Ready}
    (brings : x.dispatch? = some (.ready r)) :
    let s := c.hub.store
    let after := c.call x
    after.2 = .applied (.ready r.user r.listed r.sessionId) ∧ c.StartsOver x.shard r after.1 ∧
      ∃ gone : List GuildId, gone.Nodup ∧ (∀ g, g ∈ gone ↔ g ∈ (c.sessions x.shard).owned ∧ g ∉ r.listed) ∧
        after.1.hub.bus =
          (s.farewells gone ++ [Event.ready r.user r.listed r.sessionId]).foldl Bus.publish c.hub.bus ∧
        (s.farewells gone).map Event.left? = gone.map some ∧
        ∀ g prior, Event.guildUnavailable g false prior ∈ s.farewells gone →
          prior.map (·.guild) = s.guild? g ∧
            ((∀ h ∈ gone, h ≠ g → ∀ k, s.isListed h k = true → s.isListed g k = false) → prior = s.holdings? g) := by
  intro s after
  obtain ⟨news, owned, called⟩ := call_some (c := c) brings
  have same : news.gone r = (c.sessions x.shard).gone r := Session.left_congr owned (.ready r)
  obtain ⟨applied, clears, user, told⟩ := news.apply_ready c.hub r
  have hub : after.1.hub = (news.apply c.hub (.ready r)).2.1 := congrArg (·.1.hub) called
  have distinct := (c.sessions x.shard).nodup_gone r
  rw [same] at clears told
  refine ⟨?_, ?_, (c.sessions x.shard).gone r, distinct, fun g => Session.mem_gone, ?_, s.left?_farewells _, ?_⟩
  · exact (congrArg Prod.snd called).trans (congrArg Outcome.ofResult applied)
  · apply startsOver_of_clears (reachable_call reachable x)
    · exact hub ▸ clears
    · intro g
      have available := congrArg Availability.unavailable (availability_call_some reachable brings)
      rw [Store.unavailable_availability] at available
      rw [available]
      exact Session.mem_unavailable_ready
    · have now := owned_call_some (c := c) brings x.shard
      rwa [if_pos rfl] at now
    · exact hub ▸ user
    · intro j other
      exact (congrArg (·.1.sessions j) called).trans (if_neg other)
  · exact hub ▸ told
  · intro g prior mem
    obtain ⟨h, -, _, ⟨⟩, guild, whole⟩ := Store.mem_farewells distinct mem
    exact ⟨guild, whole⟩

def secondReady : Ready where
  version := 6
  user := ⟨⟨100⟩, "bot", none, none, false⟩
  guilds := [⟨⟨2⟩, true⟩, ⟨⟨4⟩, true⟩]
  sessionId := "s"

theorem starts_over_with_neighbour :
    let c := Cluster.empty.serve [.apply true (.guildCreate { Guild.bare ⟨1⟩ with channels := [.text ⟨10⟩ none] }),
      .apply true (.guildCreate (.bare ⟨2⟩)), .apply false (.guildCreate (.bare ⟨3⟩))]
    let x := Call.process true ⟨Envelope.opDispatch, some "READY", some 9, secondReady.render⟩
    x.dispatch? = some (.ready secondReady) ∧ (c.call x).2 = .applied (.ready secondReady.user [⟨2⟩, ⟨4⟩] "s") ∧
      c.StartsOver true secondReady (c.call x).1 ∧
      (c.call x).1.hub.store.isCached ⟨3⟩ = true ∧ (c.call x).1.hub.store.get? (.channel ⟨10⟩) = none ∧
      c.hub.store.farewells [⟨1⟩] = [.guildUnavailable ⟨1⟩ false (c.hub.store.holdings? ⟨1⟩)] := by
  intro c x
  have reachable : c.Reachable := reachable_call (reachable_call (reachable_call .empty _) _) _
  have brings : x.dispatch? = some (.ready secondReady) := by decide +kernel
  obtain ⟨applied, restarted, -⟩ := reachable.starts_over brings
  have concerned : c.Concerns true secondReady ⟨1⟩ := .inl (by decide +kernel)
  have neighbour : (c.call x).1.hub.store.guild? ⟨3⟩ = some (.ofGuild (.bare ⟨3⟩)) := by
    rw [restarted.otherGuilds ⟨3⟩ (by rw [Concerns]; decide +kernel)]
    decide +kernel
  refine ⟨brings, applied, restarted, Store.isCached_iff.2 (Store.mem_guilds_of_guild? neighbour), ?_, rfl⟩
  exact restarted.covered ⟨1⟩ concerned (.channel ⟨10⟩) (by decide +kernel)

end Cluster
end GuildFeed
