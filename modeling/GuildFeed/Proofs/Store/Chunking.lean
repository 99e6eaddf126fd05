import GuildFeed.Proofs.Store.Recovery
import GuildFeed.Proofs.Store.Repetition
import GuildFeed.Store.PartialUpdate

namespace GuildFeed

namespace Shelf

set_option linter.unusedSectionVars false

variable {κ ι α β : Type} [Ord κ] [Std.TransOrd κ] [Std.LawfulEqOrd κ] [DecidableEq κ]
  [Ord ι] [Std.TransOrd ι] [Std.LawfulEqOrd ι] [DecidableEq ι] [Listed κ ι]
  {g : GuildId} {id : β → ι} {f : β → α} {val : Option α → β → α} {items : List β}

theorem kept_concat (id : β → ι) (f : β → α) (items : List β) (b : β) :
    kept id (fun b => some (f b)) (items ++ [b]) = (kept id (fun b => some (f b)) items).insert (id b) := by
  apply Std.ExtTreeSet.ext_mem
  intro i
  simp only [kept, Option.isSome_some, List.filter_true, List.map_append, Std.ExtTreeSet.mem_insert,
    Std.ExtTreeSet.mem_ofList, List.contains_iff_mem, List.mem_append, Std.LawfulEqCmp.compare_eq_iff_eq]
  rw [or_comm]
  simp [eq_comm]

/-- An item that is added to a refilled shelf might as well have been the last to fill it. -/
theorem amend_refill (s : Shelf κ α) (b : β)
    (value : val ((s.refill g id (fun b => some (f b)) items).get? (Listed.key g (id b))) b = f b) :
    amend g id val (s.refill g id (fun b => some (f b)) items) b =
      s.refill g id (fun b => some (f b)) (items ++ [b]) := by
  rw [amend, value]
  apply ext_get?
  · intro k
    rw [get?_put, get?_refill, get?_refill, deciding?_concat]
    split <;> rfl
  · intro h
    rw [lists_refill]
    by_cases same : g = h
    · subst same
      have filled : (s.refill g id (fun b => some (f b)) items).lists[g]? =
          some (kept id (fun b => some (f b)) items) := by
        rw [lists_refill, if_pos rfl]
      rw [if_pos rfl, kept_concat]
      simp [put, enlist, Listed.id?_eq_some_iff.2 rfl, filled]
    · rw [if_neg same]
      refine (lists_enlist same).trans ?_
      rw [lists_refill, if_neg same]

theorem foldl_amend_refill (s : Shelf κ α) (g : GuildId) (id : β → ι) (f : β → α) (val : Option α → β → α)
    (items rest : List β) (value : ∀ before b, before ++ [b] <+: items ++ rest →
      val ((s.refill g id (fun b => some (f b)) before).get? (Listed.key g (id b))) b = f b) :
    rest.foldl (amend g id val) (s.refill g id (fun b => some (f b)) items) =
      s.refill g id (fun b => some (f b)) (items ++ rest) := by
  induction rest generalizing items with
  | nil => rw [List.append_nil, List.foldl_nil]
  | cons b rest ih =>
    have regroup : items ++ b :: rest = (items ++ [b]) ++ rest := by simp
    rw [regroup] at value ⊢
    rw [List.foldl_cons, amend_refill s b (value items b (List.prefix_append _ _)), ih _ value]

end Shelf

def Guild.extend (g : Guild) (c : MembersChunk) : Guild :=
  { g with members := g.members ++ c.members, presences := g.presences ++ c.presences }

theorem Guild.foldl_extend (g : Guild) (chunks : List MembersChunk) :
    chunks.foldl Guild.extend g =
      { g with
        members := g.members ++ chunks.flatMap (·.members)
        presences := g.presences ++ chunks.flatMap (·.presences) } := by
  induction chunks generalizing g with
  | nil => simp
  | cons c chunks ih => simp [ih, extend]

namespace Store
open GuildFeed.Shelf

variable {s : Store} {g : Guild} {c : MembersChunk}

theorem takeChunk_putSnapshot (own : s.Ownership) (counted : g.memberCount.isSome) (addressed : c.guildId = g.id)
    (distinct : ((g.extend c).presences.map (·.user.id)).Nodup) :
    (s.putSnapshot g).takeChunk c = s.putSnapshot (g.extend c) := by
  obtain ⟨n, reported⟩ := Option.isSome_iff_exists.1 counted
  -- without a reported count the members listed would be counted, and these are more now
  have entry : GuildEntry.ofGuild (g.extend c) = .ofGuild g := by
    simp [GuildEntry.ofGuild, Guild.extend, reported]
  have members := foldl_amend_refill s.members g.id (·.user.id) (MemberEntry.ofMember · g.id)
    (fun _ m => .ofMember m g.id) g.members c.members fun _ _ _ => rfl
  have presences := foldl_amend_refill s.presences g.id (·.user.id)
    (fun u => (PresenceEntry.start g.id u.user.id).merge u) (merged g.id) g.presences c.presences <| by
    intro before u initial
    have unseen : last? (·.user.id) before u.user.id = none := by
      rw [last?_eq_none]
      have apart := distinct.sublist (initial.sublist.map (·.user.id))
      rw [List.map_append, List.nodup_append] at apart
      exact fun v mem => apart.2.2 _ (List.mem_map_of_mem mem) _ (by simp)
    rw [get?_refill_key, unseen]
    · rfl
    · intro p found
      exact own.presences.listed found (congrArg (some ·.guild) (own.presences.key_eq found))
  rw [putSnapshot_eq own, putSnapshot_eq own, takeChunk, addressed, entry]
  simp only [mk.injEq, members, presences]
  simp [Guild.extend]

theorem update_membersChunk (own : s.Ownership) (counted : g.memberCount.isSome) (addressed : c.guildId = g.id)
    (distinct : ((g.extend c).presences.map (·.user.id)).Nodup) :
    ∃ e, (s.putSnapshot g).update (.membersChunk c) = .ok (s.putSnapshot (g.extend c), e) := by
  have cached : c.guildId ∈ (s.putSnapshot g).guilds := addressed ▸ mem_guilds_of_guild? (own.guild?_putSnapshot g)
  obtain ⟨e, accepted⟩ := onMembersChunk_eq (own.putSnapshot g) cached
  rw [takeChunk_putSnapshot own counted addressed distinct] at accepted
  exact ⟨e, accepted⟩

theorem follow_membersChunks (own : s.Ownership) (counted : g.memberCount.isSome) {chunks : List MembersChunk}
    (addressed : ∀ c ∈ chunks, c.guildId = g.id)
    (distinct : ((chunks.foldl Guild.extend g).presences.map (·.user.id)).Nodup) :
    (s.putSnapshot g).accepted (chunks.map .membersChunk) = chunks.map .membersChunk ∧
      (s.putSnapshot g).follow (chunks.map .membersChunk) = s.putSnapshot (chunks.foldl Guild.extend g) := by
  induction chunks generalizing g with
  | nil => exact ⟨rfl, rfl⟩
  | cons c chunks ih =>
    obtain ⟨first, rest⟩ := List.forall_mem_cons.1 addressed
    rw [List.foldl_cons] at distinct ⊢
    have soFar : ((g.extend c).presences.map (·.user.id)).Nodup := by
      rw [Guild.foldl_extend, List.map_append, List.nodup_append] at distinct
      exact distinct.1
    obtain ⟨e, taken⟩ := update_membersChunk own counted first soFar
    obtain ⟨accepted, followed⟩ := ih (g := g.extend c) counted rest distinct
    rw [List.map_cons, accepted_cons_ok taken, follow_cons_ok taken, accepted, followed]
    exact ⟨rfl, rfl⟩

/-- However the members and the presences of a guild are cut into those that come with its snapshot
and those that come in chunks, all of them are taken, and the store is the same as if all had come
with the snapshot. -/
theorem Reachable.load_in_chunks (reachable : s.Reachable) {g : Guild} (members : List Member)
    (presences : List PresenceUpdate) (chunks : List MembersChunk) (available : g.unavailable = false)
    (counted : g.memberCount.isSome) (distinct : (g.presences.map (·.user.id)).Nodup)
    (addressed : ∀ c ∈ chunks, c.guildId = g.id)
    (allMembers : members ++ chunks.flatMap (·.members) = g.members)
    (allPresences : presences ++ chunks.flatMap (·.presences) = g.presences) :
    let parts : List Dispatch := .guildCreate { g with members, presences } :: chunks.map .membersChunk
    s.accepted parts = parts ∧ ∃ e, s.update (.guildCreate g) = .ok (s.follow parts, e) := by
  intro parts
  have whole : chunks.foldl Guild.extend { g with members, presences } = g := by
    rw [Guild.foldl_extend, allMembers, allPresences]
  have first := update_guildCreate s (g := { g with members, presences }) available
  obtain ⟨accepted, followed⟩ := follow_membersChunks (g := { g with members, presences }) reachable.ownership
    counted addressed (whole.symm ▸ distinct)
  have same : s.follow parts = s.putSnapshot g := by
    rw [follow_cons_ok first, followed, whole]
  constructor
  · exact (accepted_cons_ok first _).trans (congrArg _ accepted)
  · rw [same]
    exact ⟨_, update_guildCreate s available⟩

def online (id : UserId) : PresenceUpdate := ⟨⟨id⟩, none, .value .online, .absent⟩

theorem load_in_chunks_handover :
    let whole : Guild := { Guild.bare ⟨1⟩ with
      memberCount := some 3
      members := [.bare ⟨5⟩, .bare ⟨6⟩, .bare ⟨7⟩, .bare ⟨5⟩]
      presences := [online ⟨6⟩, online ⟨7⟩] }
    let parts : List Dispatch := [.guildCreate { whole with members := [.bare ⟨5⟩], presences := [] },
      .membersChunk ⟨⟨1⟩, [.bare ⟨6⟩, .bare ⟨7⟩], [online ⟨6⟩], 0, 2⟩,
      .membersChunk ⟨⟨1⟩, [.bare ⟨5⟩], [online ⟨7⟩], 1, 2⟩]
    (run handover).accepted parts = parts ∧
      (∃ e, (run handover).update (.guildCreate whole) = .ok ((run handover).follow parts, e)) ∧
      ((run handover).follow parts).membersOf ⟨1⟩ = [⟨5⟩, ⟨6⟩, ⟨7⟩].map fun id => .ofMember (Member.bare id) ⟨1⟩ := by
  intro whole parts
  have loaded := (reachable_run handover).load_in_chunks (g := whole) [.bare ⟨5⟩] []
    [⟨⟨1⟩, [.bare ⟨6⟩, .bare ⟨7⟩], [online ⟨6⟩], 0, 2⟩, ⟨⟨1⟩, [.bare ⟨5⟩], [online ⟨7⟩], 1, 2⟩]
    rfl rfl (by decide) (by decide) rfl rfl
  exact ⟨loaded.1, loaded.2, by decide +kernel⟩

end Store
end GuildFeed
