import GuildFeed.Proofs.Shelf.Ownership
import GuildFeed.Store.Basic

namespace GuildFeed

theorem Shelf.Ownership.unlistMoved {κ ι α : Type} [Ord κ] [Std.TransOrd κ] [Std.LawfulEqOrd κ] [Ord ι]
    [Std.TransOrd ι] [Std.LawfulEqOrd ι] [Listed κ ι] [Entry α κ ι] {s : Shelf κ α}
    {cached : GuildId → Prop} (own : s.Ownership cached) {k : κ} {a : α} {old new : Option GuildId}
    (found : s.get? k = some a) (owner : Entry.owner? a = new) :
    (Store.unlistMoved s old new k).Ownership cached := by
  unfold Store.unlistMoved
  split
  · exact own
  · next moved =>
    apply own.unlist
    rintro b g hb hg rfl
    rw [found, Option.some.injEq] at hb
    subst hb
    exact moved (hg.symm.trans owner)

namespace Store

structure Ownership (s : Store) : Prop where
  guild_id : ∀ {g e}, s.guild? g = some e → e.id = g
  channels : s.channels.Ownership (· ∈ s.guilds)
  roles : s.roles.Ownership (· ∈ s.guilds)
  emojis : s.emojis.Ownership (· ∈ s.guilds)
  members : s.members.Ownership (· ∈ s.guilds)
  presences : s.presences.Ownership (· ∈ s.guilds)
  voiceStates : s.voiceStates.Ownership (· ∈ s.guilds)
  exact_members : s.members.Exact
  exact_presences : s.presences.Exact

theorem isCached_iff {s : Store} {g : GuildId} : s.isCached g = true ↔ g ∈ s.guilds :=
  Std.ExtTreeMap.contains_iff_mem

theorem mem_guilds_of_guild? {s : Store} {g : GuildId} {e : GuildEntry} (found : s.guild? g = some e) :
    g ∈ s.guilds :=
  Std.ExtTreeMap.mem_iff_isSome_getElem?.2 (by rw [guild?] at found; simp [found])

namespace Ownership
variable {s : Store}

theorem empty : Store.empty.Ownership where
  guild_id found := by simp [Store.empty, guild?] at found
  channels := Shelf.Ownership.empty.congr (by simp [Store.empty])
  roles := Shelf.Ownership.empty.congr (by simp [Store.empty])
  emojis := Shelf.Ownership.empty.congr (by simp [Store.empty])
  members := Shelf.Ownership.empty.congr (by simp [Store.empty])
  presences := Shelf.Ownership.empty.congr (by simp [Store.empty])
  voiceStates := Shelf.Ownership.empty.congr (by simp [Store.empty])
  exact_members := Shelf.Exact.empty
  exact_presences := Shelf.Exact.empty

/-! ## Guilds -/

theorem guild_id_insert (own : s.Ownership) {e f : GuildEntry} {g : GuildId}
    (found : (s.guilds.insert e.id e)[g]? = some f) : f.id = g := by
  rw [Std.ExtTreeMap.getElem?_insert] at found
  split at found
  · next same =>
    cases found
    exact Std.LawfulEqCmp.eq_of_compare same
  · exact own.guild_id found

theorem setEntry (own : s.Ownership) {e : GuildEntry} (cached : e.id ∈ s.guilds) (n m : Int) :
    Ownership { s with guilds := s.guilds.insert e.id e, guildGauge := n, memberGauge := m } := by
  have same (g : GuildId) : g ∈ s.guilds.insert e.id e ↔ g ∈ s.guilds := by
    rw [Std.ExtTreeMap.mem_insert, or_iff_right_iff_imp]
    intro h
    exact Std.LawfulEqCmp.eq_of_compare h ▸ cached
  exact
    { guild_id := own.guild_id_insert
      channels := own.channels.congr same
      roles := own.roles.congr same
      emojis := own.emojis.congr same
      members := own.members.congr same
      presences := own.presences.congr same
      voiceStates := own.voiceStates.congr same
      exact_members := own.exact_members
      exact_presences := own.exact_presences }

theorem mem_guilds_insert {e : GuildEntry} (g : GuildId) :
    g ∈ s.guilds.insert e.id e ↔ e.id = g ∨ g ∈ s.guilds := by
  simp [Std.ExtTreeMap.mem_insert]

theorem putGuild (own : s.Ownership) (e : GuildEntry) : (s.putGuild e).Ownership where
  guild_id := own.guild_id_insert
  channels := (own.channels.ensure e.id).congr mem_guilds_insert
  roles := (own.roles.ensure e.id).congr mem_guilds_insert
  emojis := (own.emojis.ensure e.id).congr mem_guilds_insert
  members := (own.members.ensure e.id).congr mem_guilds_insert
  presences := (own.presences.ensure e.id).congr mem_guilds_insert
  voiceStates := (own.voiceStates.ensure e.id).congr mem_guilds_insert
  exact_members := own.exact_members.ensure e.id
  exact_presences := own.exact_presences.ensure e.id

theorem mem_guilds_erase {g : GuildId} (h : GuildId) : h ∈ s.guilds.erase g ↔ g ≠ h ∧ h ∈ s.guilds := by
  simp [Std.ExtTreeMap.mem_erase]

theorem withoutGuild (own : s.Ownership) (g : GuildId) : (s.withoutGuild g).Ownership where
  guild_id {h e} found := by
    simp only [guild?, Store.withoutGuild, Std.ExtTreeMap.getElem?_erase] at found
    split at found
    · cases found
    · exact own.guild_id found
  channels := (own.channels.close g).congr mem_guilds_erase
  roles := (own.roles.close g).congr mem_guilds_erase
  emojis := (own.emojis.close g).congr mem_guilds_erase
  members := (own.members.close g).congr mem_guilds_erase
  presences := (own.presences.close g).congr mem_guilds_erase
  voiceStates := (own.voiceStates.close g).congr mem_guilds_erase
  exact_members := own.exact_members.close g
  exact_presences := own.exact_presences.close g

theorem mark (own : s.Ownership) (g : GuildId) : (s.mark g).Ownership := { own with }

theorem unmark (own : s.Ownership) (g : GuildId) : (s.unmark g).Ownership := { own with }

theorem setUser (own : s.Ownership) (u : User) : (s.setUser u).Ownership := { own with }

theorem countJoin (own : s.Ownership) (g : GuildId) : (s.countJoin g).Ownership := by
  unfold Store.countJoin
  split
  · exact own
  · next e found =>
    have same := own.guild_id found
    subst same
    exact own.setEntry (e := { e with memberCount := e.memberCount + 1 })
      (mem_guilds_of_guild? found) _ _

theorem countLeave (own : s.Ownership) (g : GuildId) : (s.countLeave g).Ownership := by
  unfold Store.countLeave
  split
  · exact own
  · next e found =>
    split
    · exact own
    · have same := own.guild_id found
      subst same
      exact own.setEntry (e := { e with memberCount := e.memberCount - 1 })
        (mem_guilds_of_guild? found) _ _

/-! ## What belongs to guilds -/

theorem putChannel (own : s.Ownership) {c : ChannelEntry} (cached : ∀ g, c.guildId = some g → g ∈ s.guilds) :
    (s.putChannel c).Ownership :=
  { own with channels := own.channels.put rfl rfl cached }

theorem putRole (own : s.Ownership) {r : RoleEntry} (cached : r.guildId ∈ s.guilds) :
    (s.putRole r).Ownership :=
  { own with roles := own.roles.put rfl rfl (by rintro _ ⟨⟩; exact cached) }

theorem putEmoji (own : s.Ownership) {e : EmojiEntry} (cached : e.guildId ∈ s.guilds) :
    (s.putEmoji e).Ownership :=
  { own with emojis := own.emojis.put rfl rfl (by rintro _ ⟨⟩; exact cached) }

-- The key of a member tells the owner, so nothing can take the place of another guild's member.
theorem yields_member (own : s.Ownership) (id : MemberId) : s.members.Yields id (some id.guild) := by
  intro m g found owner
  have same := own.members.key_eq found
  subst same
  exact owner

theorem yields_presence (own : s.Ownership) (id : MemberId) : s.presences.Yields id (some id.guild) := by
  intro p g found owner
  have same := own.presences.key_eq found
  subst same
  exact owner

theorem yields_voiceState (own : s.Ownership) (id : MemberId) :
    s.voiceStates.Yields id (some id.guild) := by
  intro v g found owner
  have same := own.voiceStates.key_eq found
  subst same
  exact owner

theorem putMember (own : s.Ownership) {m : MemberEntry} (cached : m.guildId ∈ s.guilds) :
    (s.putMember m).Ownership :=
  { own with
    members := own.members.put rfl rfl (by rintro _ ⟨⟩; exact cached)
    exact_members := own.exact_members.put rfl (own.yields_member m.id) }

theorem cacheMember (own : s.Ownership) {m : MemberEntry} (cached : m.guildId ∈ s.guilds) :
    (s.cacheMember m).Ownership := by
  unfold Store.cacheMember
  split
  · exact own
  · exact own.putMember cached

theorem putPresence (own : s.Ownership) {p : PresenceEntry} (cached : p.guildId ∈ s.guilds) :
    (s.putPresence p).Ownership :=
  { own with
    presences := own.presences.put rfl rfl (by rintro _ ⟨⟩; exact cached)
    exact_presences := own.exact_presences.put rfl (own.yields_presence p.id) }

theorem mergePresence (own : s.Ownership) {g : GuildId} (cached : g ∈ s.guilds) (u : PresenceUpdate) :
    (s.mergePresence g u).Ownership := by
  refine own.putPresence ?_
  cases found : s.presences.get? ⟨g, u.user.id⟩ with
  | none => exact cached
  | some p =>
    -- a presence that is cached for the user names the guild itself
    have same : p.guildId = g := congrArg MemberId.guild (own.presences.key_eq found)
    exact same ▸ cached

theorem putVoiceEntry (own : s.Ownership) {v : VoiceEntry} (cached : v.guildId ∈ s.guilds) :
    (s.putVoiceEntry v).Ownership :=
  { own with voiceStates := own.voiceStates.put rfl rfl (by rintro _ ⟨⟩; exact cached) }

theorem putVoiceState (own : s.Ownership) {g : GuildId} (cached : g ∈ s.guilds) (v : VoiceState) :
    (s.putVoiceState g v).Ownership := by
  unfold Store.putVoiceState
  split
  · next e he =>
    obtain ⟨c, -, rfl⟩ := Option.map_eq_some_iff.1 he
    exact own.putVoiceEntry cached
  · exact { own with voiceStates := own.voiceStates.take _ _ }

theorem deleteChannel (own : s.Ownership) (c : ChannelId) : (s.deleteChannel c).Ownership := by
  unfold Store.deleteChannel
  split
  · exact own
  · next e found =>
    exact { own with
      channels := (own.channels.take e.guildId c).foldl_modify _ (fun _ => rfl) (fun _ => rfl) }

theorem deleteRole (own : s.Ownership) (r : RoleId) : (s.deleteRole r).Ownership := by
  unfold Store.deleteRole
  split
  · exact own
  · next e found =>
    exact { own with
      roles := own.roles.take _ _
      members := own.members.modifyListed e.guildId (fun _ => rfl) (fun _ => rfl)
      exact_members := own.exact_members.modifyListed e.guildId (fun _ => rfl) }

theorem deleteEmoji (own : s.Ownership) (id : EmojiId) : (s.deleteEmoji id).Ownership := by
  unfold Store.deleteEmoji
  split
  · exact own
  · exact { own with emojis := own.emojis.take _ _ }

theorem deleteMember (own : s.Ownership) (id : MemberId) : (s.deleteMember id).Ownership :=
  { own with
    members := own.members.discard _ _
    exact_members := own.exact_members.discard (own.yields_member id) }

theorem deletePresence (own : s.Ownership) (id : MemberId) : (s.deletePresence id).Ownership :=
  { own with
    presences := own.presences.discard _ _
    exact_presences := own.exact_presences.discard (own.yields_presence id) }

theorem deleteVoiceState (own : s.Ownership) (id : MemberId) : (s.deleteVoiceState id).Ownership :=
  { own with voiceStates := own.voiceStates.discard _ _ }

/-! ## Entities of any kind -/

theorem insert (own : s.Ownership) {e : Entity} (cached : ∀ g, e.owner? = some g → g ∈ s.guilds) :
    (s.insert e).Ownership := by
  cases e with
  | guild e =>
    rw [Store.insert]
    split
    · next known => exact own.setEntry (isCached_iff.1 known) _ _
    · exact own.putGuild e
  | channel e =>
    have put := own.putChannel cached
    exact { put with channels := put.channels.unlistMoved (by simp [Store.putChannel, Shelf.get?_put]) rfl }
  | role e =>
    have put := own.putRole (cached _ rfl)
    exact { put with roles := put.roles.unlistMoved (by simp [Store.putRole, Shelf.get?_put]) rfl }
  | emoji e =>
    have put := own.putEmoji (cached _ rfl)
    exact { put with emojis := put.emojis.unlistMoved (by simp [Store.putEmoji, Shelf.get?_put]) rfl }
  | member e => exact own.putMember (cached _ rfl)
  | presence e => exact own.putPresence (cached _ rfl)
  | voiceState e => exact own.putVoiceEntry (cached _ rfl)

theorem without (own : s.Ownership) (k : EntityKey) : (s.without k).Ownership := by
  cases k with
  | guild g => exact own.withoutGuild g
  | channel id => exact own.deleteChannel id
  | role id => exact own.deleteRole id
  | emoji id => exact own.deleteEmoji id
  | member id => exact own.deleteMember id
  | presence id => exact own.deletePresence id
  | voiceState id => exact own.deleteVoiceState id

end Ownership
end Store
end GuildFeed
