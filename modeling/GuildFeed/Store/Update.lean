import GuildFeed.Dispatch
import GuildFeed.Event
import GuildFeed.Store.Snapshot

namespace GuildFeed.Store

abbrev Update := Except StoreError (Store × Event)

/-- Whatever was cached of the listed guilds predates the session. They are marked until their
snapshots arrive. -/
def dropListed (s : Store) (gs : List GuildId) : Store :=
  gs.foldl (fun s g => (s.withoutGuild g).mark g) s

def onReady (s : Store) (r : Ready) : Store × Event :=
  ((s.setUser r.user).dropListed r.listed, .ready r.user r.listed r.sessionId)

def onUserUpdate (s : Store) (u : User) : Store × Event :=
  (s.setUser u, .currentUserUpdated s.currentUser u)

def onGuildCreate (s : Store) (g : Guild) : Store × Event :=
  if g.unavailable then
    ((s.withoutGuild g.id).mark g.id, .guildUnavailable g.id true (s.holdings? g.id))
  else (s.putSnapshot g, .guildAvailable (.ofGuild g) (s.isUnavailable g.id))

def onGuildDelete (s : Store) (n : GuildNotice) : Store × Event :=
  let rest := s.withoutGuild n.id
  (if n.unavailable then rest.mark n.id else rest.unmark n.id,
    .guildUnavailable n.id n.unavailable (s.holdings? n.id))

def onGuildUpdate (s : Store) (u : GuildUpdate) : Update :=
  match s.guild? u.id with
  | none => .error (.inconsistentReference (.guild u.id) (.guild u.id))
  | some old =>
    let new := old.merge u
    .ok ({ s with guilds := s.guilds.insert u.id new }, .guildUpdated old new)

def onChannelCreate (s : Store) (c : Channel) : Update := do
  let e := ChannelEntry.ofChannel c none
  match e.guildId with
  | some g => s.require g (.channel e.id)
  | none => pure ()
  pure (s.putChannel e, .channelCreated e)

def onChannelUpdate (s : Store) (u : ChannelUpdate) : Update := do
  match u.guildId with
  | some g => s.require g (.channel u.id)
  | none => pure ()
  match s.channels.get? u.id with
  | some old =>
    let new := old.merge u
    pure ({ s with channels := s.channels.modify u.id (·.merge u) }, .channelUpdated (some old) new)
  | none =>
    match ChannelEntry.ofUpdate? u with
    | some new => pure (s.putChannel new, .channelUpdated none new)
    | none => throw (.inconsistentReference (.channel u.id) (.channel u.id))

def onChannelDelete (s : Store) (c : Channel) : Store × Event :=
  let old := s.channels.get? c.id
  let orphaned := if old.isSome then s.orphans c.id else []
  (s.deleteChannel c.id,
    .channelDeleted c.id (c.guildId <|> old.bind (·.guildId)) old orphaned)

def onRoleCreate (s : Store) (r : GuildRole) : Update := do
  s.require r.guildId (.role r.role.id)
  let new := RoleEntry.ofRole r.role r.guildId
  pure (s.putRole new, .roleCreated new)

def onRoleUpdate (s : Store) (r : GuildRole) : Update := do
  s.require r.guildId (.role r.role.id)
  let new := RoleEntry.ofRole r.role r.guildId
  pure (s.putRole new, .roleUpdated (s.roles.get? r.role.id) new)

def onRoleDelete (s : Store) (r : RoleDelete) : Store × Event :=
  match (s.roles.get? r.roleId).filter (·.guildId = r.guildId) with
  | some old => (s.deleteRole r.roleId, .roleDeleted r.guildId r.roleId (some old))
  | none => (s, .roleDeleted r.guildId r.roleId none)

def onMemberAdd (s : Store) (a : MemberAdd) : Update := do
  let new := MemberEntry.ofMember a.member a.guildId
  s.require a.guildId (.member new.id)
  let rest := s.cacheMember new
  pure (if (s.members.get? new.id).isSome then rest else rest.countJoin a.guildId,
    .memberAdded new)

/-- An update is no join: a member first seen in one is not counted. -/
def onMemberUpdate (s : Store) (u : MemberUpdate) : Update := do
  let id : MemberId := ⟨u.guildId, u.user.id⟩
  s.require u.guildId (.member id)
  match s.members.get? id with
  | some old =>
    let new := old.merge u
    pure ({ s with members := s.members.modify id (·.merge u) }, .memberUpdated (some old) new)
  | none =>
    let new := MemberEntry.ofUpdate u
    pure (s.putMember new, .memberUpdated none new)

def onMemberRemove (s : Store) (r : MemberRemove) : Store × Event :=
  let id : MemberId := ⟨r.guildId, r.user.id⟩
  let old := s.members.get? id
  let rest := (s.deletePresence id).deleteMember id
  (if old.isSome then rest.countLeave r.guildId else rest,
    .memberRemoved r.guildId r.user old)

def onMembersChunk (s : Store) (c : MembersChunk) : Update := do
  s.require c.guildId (.guild c.guildId)
  let rest := s.putMembers c.guildId c.members
  pure (c.presences.foldl (·.mergePresence c.guildId ·) rest,
    .membersChunk c.guildId c.members.length c.presences.length c.index c.count)

def onPresenceUpdate (s : Store) (u : PresenceUpdate) : Update :=
  match u.guildId with
  | none => .error (.missingGuildId "PRESENCE_UPDATE")
  | some g => do
    let id : MemberId := ⟨g, u.user.id⟩
    s.require g (.presence id)
    let old := s.presences.get? id
    let new := (old.getD (.start g u.user.id)).merge u
    pure (s.putPresence new, .presenceUpdated g u.user.id old new)

def replaceEmojis (shelf : Shelf EmojiId EmojiEntry) :
    List EmojiEntry → Shelf EmojiId EmojiEntry × List EmojiEntry × List (EmojiEntry × EmojiEntry)
  | [] => (shelf, [], [])
  | e :: es =>
    let (rest, added, changed) := replaceEmojis { shelf with table := shelf.table.insert e.id e } es
    match shelf.get? e.id with
    | none => (rest, e :: added, changed)
    | some old => (rest, added, if old = e then changed else (old, e) :: changed)

def onEmojisUpdate (s : Store) (u : EmojiSet) : Update := do
  s.require u.guildId (.guild u.guildId)
  let new := emojiEntries u.guildId u.emojis
  let ids : Std.ExtTreeSet EmojiId := .ofList (new.map (·.id))
  let removed := (s.emojisOf u.guildId).filter fun e => !ids.contains e.id
  let (emojis, added, changed) := replaceEmojis (s.emojis.retain u.guildId ids) new
  pure ({ s with emojis }, .emojisUpdated u.guildId new added removed changed)

def onVoiceStateUpdate (s : Store) (v : VoiceState) : Update :=
  match v.guildId with
  | none => .error (.missingGuildId "VOICE_STATE_UPDATE")
  | some g => do
    let id : MemberId := ⟨g, v.userId⟩
    s.require g (.voiceState id)
    pure (s.putVoiceState g v,
      .voiceStateUpdated g v.userId (s.voiceStates.get? id) (VoiceEntry.ofVoiceState? v g))

def update (s : Store) : Dispatch → Update
  | .channelCreate c => s.onChannelCreate c
  | .channelDelete c => .ok (s.onChannelDelete c)
  | .channelUpdate u => s.onChannelUpdate u
  | .guildCreate g => .ok (s.onGuildCreate g)
  | .guildDelete n => .ok (s.onGuildDelete n)
  | .emojisUpdate u => s.onEmojisUpdate u
  | .guildUpdate u => s.onGuildUpdate u
  | .memberAdd a => s.onMemberAdd a
  | .membersChunk c => s.onMembersChunk c
  | .memberRemove r => .ok (s.onMemberRemove r)
  | .memberUpdate u => s.onMemberUpdate u
  | .presenceUpdate u => s.onPresenceUpdate u
  | .ready r => .ok (s.onReady r)
  | .roleCreate r => s.onRoleCreate r
  | .roleDelete r => .ok (s.onRoleDelete r)
  | .roleUpdate r => s.onRoleUpdate r
  | .userUpdate u => .ok (s.onUserUpdate u)
  | .voiceStateUpdate v => s.onVoiceStateUpdate v
  | .unknown name payload => .ok (s, .unknown name payload)

end GuildFeed.Store
