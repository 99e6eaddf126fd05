import GuildFeed.Proofs.Store.Update
import GuildFeed.Store.History

namespace GuildFeed

def Member.bare (id : UserId) : Member := ⟨⟨id, "", none, none, false⟩, none, [], none, false, false⟩

def Role.bare (id : RoleId) : Role := ⟨id, "", .empty, 0, 0, false, false, false⟩

def Emoji.bare (id : Option EmojiId) (name : String) : Emoji := ⟨id, some name, [], false, false, false, true⟩

def Guild.bare (id : GuildId) : Guild where
  id := id
  name := ""
  ownerId := ⟨1⟩
  icon := none
  description := none
  memberCount := none
  unavailable := false
  channels := []
  roles := []
  emojis := []
  members := []
  presences := []
  voiceStates := []

def Channel.text (id : ChannelId) (guildId : Option GuildId) : Channel where
  id := id
  kind := .guildText
  guildId := guildId
  name := none
  position := none
  parentId := none
  topic := none
  nsfw := false

namespace Store
namespace Ownership

variable {s t : Store} {e : Event}

theorem dropListed (own : s.Ownership) (gs : List GuildId) : (s.dropListed gs).Ownership := by
  induction gs generalizing s with
  | nil => exact own
  | cons g gs ih => exact ih ((own.withoutGuild g).mark g)

theorem putMembers (own : s.Ownership) {g : GuildId} (cached : g ∈ s.guilds) (ms : List Member) :
    (s.putMembers g ms).Ownership ∧ g ∈ (s.putMembers g ms).guilds := by
  induction ms generalizing s with
  | nil => exact ⟨own, cached⟩
  | cons m ms ih =>
    have same : s.cacheMember (.ofMember m g) = s.putMember (.ofMember m g) := cacheMember_eq own.members _
    rw [Store.putMembers, List.foldl_cons, same]
    exact ih (own.putMember cached) cached

theorem mergePresences (own : s.Ownership) {g : GuildId} (cached : g ∈ s.guilds)
    (us : List PresenceUpdate) : (us.foldl (·.mergePresence g ·) s).Ownership := by
  induction us generalizing s with
  | nil => exact own
  | cons u us ih => exact ih (own.mergePresence cached u) cached

/-! ## Dispatches -/

theorem onGuildCreate (own : s.Ownership) (g : Guild) : (s.onGuildCreate g).1.Ownership := by
  unfold Store.onGuildCreate
  split
  · exact (own.withoutGuild g.id).mark g.id
  · exact own.putSnapshot g

theorem onGuildDelete (own : s.Ownership) (n : GuildNotice) : (s.onGuildDelete n).1.Ownership := by
  have rest := own.withoutGuild n.id
  unfold Store.onGuildDelete
  split
  · exact rest.mark n.id
  · exact rest.unmark n.id

theorem onGuildUpdate (own : s.Ownership) {u : GuildUpdate} (h : s.onGuildUpdate u = .ok (t, e)) :
    t.Ownership := by
  obtain ⟨old, found, rfl, -⟩ := onGuildUpdate_ok.1 h
  have cached := mem_guilds_of_guild? found
  rw [← own.guild_id found] at cached ⊢
  exact own.setEntry (e := old.merge u) cached _ _

theorem onChannelCreate (own : s.Ownership) {c : Channel} (h : s.onChannelCreate c = .ok (t, e)) :
    t.Ownership := by
  obtain ⟨cached, rfl, -⟩ := onChannelCreate_ok.1 h
  exact own.putChannel cached

theorem onChannelUpdate (own : s.Ownership) {u : ChannelUpdate} (h : s.onChannelUpdate u = .ok (t, e)) :
    t.Ownership := by
  obtain ⟨cached, ⟨old, -, rfl, -⟩ | ⟨new, -, first, rfl, -⟩⟩ := onChannelUpdate_ok.1 h
  · exact { own with channels := own.channels.modify (fun _ _ => rfl) fun _ => rfl }
  · obtain ⟨kind, -, rfl⟩ := Option.map_eq_some_iff.1 first
    exact own.putChannel cached

theorem onRoleCreate (own : s.Ownership) {r : GuildRole} (h : s.onRoleCreate r = .ok (t, e)) :
    t.Ownership := by
  obtain ⟨cached, rfl, -⟩ := onRoleCreate_ok.1 h
  exact own.putRole cached

theorem onRoleUpdate (own : s.Ownership) {r : GuildRole} (h : s.onRoleUpdate r = .ok (t, e)) :
    t.Ownership := by
  obtain ⟨cached, rfl, -⟩ := onRoleUpdate_ok.1 h
  exact own.putRole cached

theorem onRoleDelete (own : s.Ownership) (r : RoleDelete) : (s.onRoleDelete r).1.Ownership := by
  unfold Store.onRoleDelete
  split
  · exact own.deleteRole r.roleId
  · exact own

theorem onMemberAdd (own : s.Ownership) {a : MemberAdd} (h : s.onMemberAdd a = .ok (t, e)) :
    t.Ownership := by
  obtain ⟨cached, -, rfl⟩ := onMemberAdd_ok.1 h
  have rest : (s.cacheMember (.ofMember a.member a.guildId)).Ownership := own.cacheMember cached
  split
  · exact rest
  · exact rest.countJoin a.guildId

theorem onMemberUpdate (own : s.Ownership) {u : MemberUpdate} (h : s.onMemberUpdate u = .ok (t, e)) :
    t.Ownership := by
  obtain ⟨cached, ⟨old, found, rfl, -⟩ | ⟨-, rfl, -⟩⟩ := onMemberUpdate_ok.1 h
  · have same : ∀ m, s.members.get? ⟨u.guildId, u.user.id⟩ = some m → (m.merge u).id = m.id := by
      intro m hm
      have key : m.id = ⟨u.guildId, u.user.id⟩ := own.members.key_eq hm
      have guild : m.guildId = u.guildId := congrArg MemberId.guild key
      rw [key, ← guild]
      rfl
    exact { own with
      members := own.members.modify same fun _ => rfl
      exact_members := own.exact_members.modify ⟨u.guildId, u.user.id⟩ fun _ => rfl }
  · exact own.putMember cached

theorem onMemberRemove (own : s.Ownership) (r : MemberRemove) : (s.onMemberRemove r).1.Ownership := by
  have rest := (own.deletePresence ⟨r.guildId, r.user.id⟩).deleteMember ⟨r.guildId, r.user.id⟩
  simp only [Store.onMemberRemove]
  split
  · exact rest.countLeave r.guildId
  · exact rest

theorem onMembersChunk (own : s.Ownership) {c : MembersChunk} (h : s.onMembersChunk c = .ok (t, e)) :
    t.Ownership := by
  obtain ⟨cached, rfl, -⟩ := onMembersChunk_ok.1 h
  obtain ⟨rest, cached⟩ := own.putMembers cached c.members
  exact rest.mergePresences cached c.presences

theorem onPresenceUpdate (own : s.Ownership) {u : PresenceUpdate} (h : s.onPresenceUpdate u = .ok (t, e)) :
    t.Ownership := by
  obtain ⟨g, -, cached, rfl, -⟩ := onPresenceUpdate_ok.1 h
  exact own.mergePresence cached u

theorem onEmojisUpdate (own : s.Ownership) {u : EmojiSet} (h : s.onEmojisUpdate u = .ok (t, e)) :
    t.Ownership := by
  obtain ⟨cached, rfl⟩ := onEmojisUpdate_ok.1 ⟨e, h⟩
  have refilled := own.emojis.refill (fits_emojis u.guildId u.emojis)
  refine { own with emojis := refilled.congr fun h => ?_ }
  rw [iff_or_self]
  rintro rfl
  exact cached

theorem onVoiceStateUpdate (own : s.Ownership) {v : VoiceState} (h : s.onVoiceStateUpdate v = .ok (t, e)) :
    t.Ownership := by
  obtain ⟨g, -, cached, rfl, -⟩ := onVoiceStateUpdate_ok.1 h
  exact own.putVoiceState cached v

theorem update (own : s.Ownership) {d : Dispatch} (h : s.update d = .ok (t, e)) : t.Ownership := by
  cases d with
  | channelCreate c => exact own.onChannelCreate h
  | channelDelete c =>
    obtain ⟨⟩ := h
    exact own.deleteChannel c.id
  | channelUpdate u => exact own.onChannelUpdate h
  | guildCreate g =>
    have created := own.onGuildCreate g
    rw [Except.ok.inj h] at created
    exact created
  | guildDelete n =>
    have deleted := own.onGuildDelete n
    rw [Except.ok.inj h] at deleted
    exact deleted
  | emojisUpdate u => exact own.onEmojisUpdate h
  | guildUpdate u => exact own.onGuildUpdate h
  | memberAdd a => exact own.onMemberAdd h
  | membersChunk c => exact own.onMembersChunk h
  | memberRemove r =>
    have removed := own.onMemberRemove r
    rw [Except.ok.inj h] at removed
    exact removed
  | memberUpdate u => exact own.onMemberUpdate h
  | presenceUpdate u => exact own.onPresenceUpdate h
  | ready r =>
    obtain ⟨⟩ := h
    exact (own.setUser r.user).dropListed r.listed
  | roleCreate r => exact own.onRoleCreate h
  | roleDelete r =>
    have deleted := own.onRoleDelete r
    rw [Except.ok.inj h] at deleted
    exact deleted
  | roleUpdate r => exact own.onRoleUpdate h
  | userUpdate u =>
    obtain ⟨⟩ := h
    exact own.setUser u
  | voiceStateUpdate v => exact own.onVoiceStateUpdate h
  | unknown name payload =>
    obtain ⟨⟩ := h
    exact own

/-! ## Commands -/

theorem upsert (own : s.Ownership) {x : Entity} {old : Option Entity} (h : s.upsert x = .ok (t, old)) :
    t.Ownership := by
  obtain ⟨cached, rfl, -⟩ := upsert_ok.1 h
  exact own.insert cached

theorem step (own : s.Ownership) (c : Command) : (s.step c).Ownership := by
  cases c with
  | dispatch d =>
    simp only [Store.step]
    split
    · next accepted => exact own.update accepted
    · exact own
  | upsert x =>
    simp only [Store.step]
    split
    · next accepted => exact own.upsert accepted
    · exact own
  | remove k => exact own.without k
  | removeGuild g => exact own.withoutGuild g
  | clear => exact empty

end Ownership

theorem Reachable.ownership {s : Store} (reachable : s.Reachable) : s.Ownership := by
  induction reachable with
  | empty => exact Ownership.empty
  | step _ c own => exact own.step c

/-- A channel of one guild is created again in another. -/
def handover : List Command :=
  [.dispatch (.guildCreate { Guild.bare ⟨1⟩ with channels := [.text ⟨10⟩ none] }),
    .dispatch (.guildCreate (.bare ⟨2⟩)),
    .dispatch (.channelCreate (.text ⟨10⟩ (some ⟨2⟩)))]

end Store
end GuildFeed
