import GuildFeed.Store.Drain
import GuildFeed.Store.Update

/-!
# Updates in place

A dispatch or an upsert as a program that reads the store and changes it as it goes, with its checks
where they come. What such a program has changed stays changed when a later check fails.
-/

namespace GuildFeed.Store

abbrev InPlace := ExceptT StoreError (StateM Store)

namespace InPlace
variable {α : Type}

def runs (x : InPlace α) (s : Store) : Except StoreError α × Store := x.run.run s

def reads (f : Store → α) : InPlace α := do return f (← get)

def changes (f : Store → Store) : InPlace Unit := modify f

def takes (f : Store → α × Store) : InPlace α := modifyGet f

def require (g : GuildId) (entity : EntityKey) : InPlace Unit := do
  if ← reads (·.isCached g) then return () else throw (.inconsistentReference entity (.guild g))

def ready (r : Ready) : InPlace Event := do
  changes (·.setUser r.user)
  changes (·.dropListed r.listed)
  return .ready r.user r.listed r.sessionId

def userUpdate (u : User) : InPlace Event := do
  let old ← reads (·.currentUser)
  changes (·.setUser u)
  return .currentUserUpdated old u

def guildCreate (g : Guild) : InPlace Event := do
  if g.unavailable then
    let prior ← reads (·.holdings? g.id)
    changes (·.withoutGuild g.id)
    changes (·.mark g.id)
    return .guildUnavailable g.id true prior
  else
    let recovered ← reads (·.isUnavailable g.id)
    changes (·.putSnapshot g)
    return .guildAvailable (.ofGuild g) recovered

def guildDelete (n : GuildNotice) : InPlace Event := do
  let prior ← reads (·.holdings? n.id)
  changes (·.withoutGuild n.id)
  changes fun s => if n.unavailable then s.mark n.id else s.unmark n.id
  return .guildUnavailable n.id n.unavailable prior

def guildUpdate (u : GuildUpdate) : InPlace Event := do
  match ← reads (·.guild? u.id) with
  | none => throw (.inconsistentReference (.guild u.id) (.guild u.id))
  | some old =>
    changes fun s => { s with guilds := s.guilds.insert u.id (old.merge u) }
    return .guildUpdated old (old.merge u)

def channelCreate (c : Channel) : InPlace Event := do
  let e := ChannelEntry.ofChannel c none
  match e.guildId with
  | some g => require g (.channel e.id)
  | none => pure ()
  changes (·.putChannel e)
  return .channelCreated e

def channelUpdate (u : ChannelUpdate) : InPlace Event := do
  match u.guildId with
  | some g => require g (.channel u.id)
  | none => pure ()
  match ← reads (·.channels.get? u.id) with
  | some old =>
    changes fun s => { s with channels := s.channels.modify u.id (·.merge u) }
    return .channelUpdated (some old) (old.merge u)
  | none =>
    match ChannelEntry.ofUpdate? u with
    | some new =>
      changes (·.putChannel new)
      return .channelUpdated none new
    | none => throw (.inconsistentReference (.channel u.id) (.channel u.id))

def channelDelete (c : Channel) : InPlace Event := do
  let old ← reads (·.channels.get? c.id)
  let orphaned ← reads (·.orphans c.id)
  changes (·.deleteChannel c.id)
  return .channelDeleted c.id (c.guildId <|> old.bind (·.guildId)) old
    (if old.isSome then orphaned else [])

def roleCreate (r : GuildRole) : InPlace Event := do
  require r.guildId (.role r.role.id)
  let new := RoleEntry.ofRole r.role r.guildId
  changes (·.putRole new)
  return .roleCreated new

def roleUpdate (r : GuildRole) : InPlace Event := do
  require r.guildId (.role r.role.id)
  let new := RoleEntry.ofRole r.role r.guildId
  let old ← reads (·.roles.get? r.role.id)
  changes (·.putRole new)
  return .roleUpdated old new

def roleDelete (r : RoleDelete) : InPlace Event := do
  match ← reads fun s => (s.roles.get? r.roleId).filter (·.guildId = r.guildId) with
  | some old =>
    changes (·.deleteRole r.roleId)
    return .roleDeleted r.guildId r.roleId (some old)
  | none => return .roleDeleted r.guildId r.roleId none

def memberAdd (a : MemberAdd) : InPlace Event := do
  let new := MemberEntry.ofMember a.member a.guildId
  require a.guildId (.member new.id)
  let old ← reads (·.members.get? new.id)
  changes (·.cacheMember new)
  if old.isSome then return .memberAdded new
  changes (·.countJoin a.guildId)
  return .memberAdded new

def memberUpdate (u : MemberUpdate) : InPlace Event := do
  let id : MemberId := ⟨u.guildId, u.user.id⟩
  require u.guildId (.member id)
  match ← reads (·.members.get? id) with
  | some old =>
    changes fun s => { s with members := s.members.modify id (·.merge u) }
    return .memberUpdated (some old) (old.merge u)
  | none =>
    changes (·.putMember (.ofUpdate u))
    return .memberUpdated none (.ofUpdate u)

def memberRemove (r : MemberRemove) : InPlace Event := do
  let id : MemberId := ⟨r.guildId, r.user.id⟩
  let old ← reads (·.members.get? id)
  changes (·.deletePresence id)
  changes (·.deleteMember id)
  if old.isSome then changes (·.countLeave r.guildId)
  return .memberRemoved r.guildId r.user old

def membersChunk (c : MembersChunk) : InPlace Event := do
  require c.guildId (.guild c.guildId)
  changes (·.putMembers c.guildId c.members)
  changes fun s => c.presences.foldl (·.mergePresence c.guildId ·) s
  return .membersChunk c.guildId c.members.length c.presences.length c.index c.count

def presenceUpdate (u : PresenceUpdate) : InPlace Event := do
  match u.guildId with
  | none => throw (.missingGuildId "PRESENCE_UPDATE")
  | some g =>
    let id : MemberId := ⟨g, u.user.id⟩
    require g (.presence id)
    let old ← reads (·.presences.get? id)
    changes (·.mergePresence g u)
    return .presenceUpdated g u.user.id old ((old.getD (.start g u.user.id)).merge u)

def emojisUpdate (u : EmojiSet) : InPlace Event := do
  require u.guildId (.guild u.guildId)
  let new := emojiEntries u.guildId u.emojis
  let ids : Std.ExtTreeSet EmojiId := .ofList (new.map (·.id))
  let removed ← reads fun s => (s.emojisOf u.guildId).filter fun e => !ids.contains e.id
  changes fun s => { s with emojis := s.emojis.retain u.guildId ids }
  let (added, changed) ← reads fun s => (replaceEmojis s.emojis new).2
  changes fun s => { s with emojis := (replaceEmojis s.emojis new).1 }
  return .emojisUpdated u.guildId new added removed changed

def voiceStateUpdate (v : VoiceState) : InPlace Event := do
  match v.guildId with
  | none => throw (.missingGuildId "VOICE_STATE_UPDATE")
  | some g =>
    let id : MemberId := ⟨g, v.userId⟩
    require g (.voiceState id)
    let old ← reads (·.voiceStates.get? id)
    changes (·.putVoiceState g v)
    return .voiceStateUpdated g v.userId old (VoiceEntry.ofVoiceState? v g)

def perform : Dispatch → InPlace Event
  | .channelCreate c => channelCreate c
  | .channelDelete c => channelDelete c
  | .channelUpdate u => channelUpdate u
  | .guildCreate g => guildCreate g
  | .guildDelete n => guildDelete n
  | .emojisUpdate u => emojisUpdate u
  | .guildUpdate u => guildUpdate u
  | .memberAdd a => memberAdd a
  | .membersChunk c => membersChunk c
  | .memberRemove r => memberRemove r
  | .memberUpdate u => memberUpdate u
  | .presenceUpdate u => presenceUpdate u
  | .ready r => ready r
  | .roleCreate r => roleCreate r
  | .roleDelete r => roleDelete r
  | .roleUpdate r => roleUpdate r
  | .userUpdate u => userUpdate u
  | .voiceStateUpdate v => voiceStateUpdate v
  | .unknown name payload => return .unknown name payload

def upsert : Entity → InPlace (Option Entity)
  | .guild e => do
    let old ← reads (·.guild? e.id)
    changes (·.setGuild e)
    if old.isNone then changes (·.openLists e.id)
    return old.map .guild
  | .channel e => do
    match e.guildId with
    | some g => require g (.channel e.id)
    | none => pure ()
    let old ← reads (·.channels.get? e.id)
    changes (·.putChannel e)
    changes fun s => { s with channels := unlistMoved s.channels (old.bind (·.guildId)) e.guildId e.id }
    return old.map .channel
  | .role e => do
    require e.guildId (.role e.id)
    let old ← reads (·.roles.get? e.id)
    changes (·.putRole e)
    changes fun s => { s with roles := unlistMoved s.roles (old.map (·.guildId)) (some e.guildId) e.id }
    return old.map .role
  | .emoji e => do
    require e.guildId (.emoji e.id)
    let old ← reads (·.emojis.get? e.id)
    changes (·.putEmoji e)
    changes fun s => { s with emojis := unlistMoved s.emojis (old.map (·.guildId)) (some e.guildId) e.id }
    return old.map .emoji
  | .member e => do
    require e.guildId (.member e.id)
    let old ← reads (·.members.get? e.id)
    changes (·.putMember e)
    return old.map .member
  | .presence e => do
    require e.guildId (.presence e.id)
    let old ← reads (·.presences.get? e.id)
    changes (·.putPresence e)
    return old.map .presence
  | .voiceState e => do
    require e.guildId (.voiceState e.id)
    let old ← reads (·.voiceStates.get? e.id)
    changes (·.putVoiceEntry e)
    return old.map .voiceState

def removeChannel (id : ChannelId) : InPlace (Option ChannelEntry) := do
  let children ← reads (·.categoryChannels id)
  match ← takes fun s => let (old, channels) := s.channels.pop (·.guildId) id; (old, { s with channels }) with
  | some old =>
    changes fun s => { s with
      channels := children.foldl (fun shelf d => shelf.modify d.id ({ · with parentId := none })) s.channels }
    return some old
  | none => return none

/-- Nothing is removed where the role is another guild's. -/
def removeRole (g : GuildId) (id : RoleId) : InPlace (Option RoleEntry) := do
  let belongs ← reads fun s => (s.roles.get? id).any (·.guildId = g)
  if !belongs then return none
  match ← takes fun s => let (old, roles) := s.roles.pop (fun _ => some g) id; (old, { s with roles }) with
  | some old =>
    changes fun s => { s with members := s.members.modifyListed g (·.strip id) }
    return some old
  | none => return none

def remove : EntityKey → InPlace (Option Entity)
  | .guild g => do
    let held ← takes fun s => let (rest, held) := s.drain g; (held, rest)
    return held.map (.guild ·.guild)
  | .channel id => do
    let old ← removeChannel id
    return old.map .channel
  | .role id => do
    match ← reads (·.roles.get? id) with
    | some r =>
      let old ← removeRole r.guildId id
      return old.map .role
    | none => return none
  | .emoji id => do
    let old ← takes fun s => let (old, emojis) := s.emojis.pop (some ·.guildId) id; (old, { s with emojis })
    return old.map .emoji
  | .member id => do
    let old ← takes fun s => let (old, members) := s.members.pop (fun _ => some id.guild) id; (old, { s with members })
    return old.map .member
  | .presence id => do
    let old ← takes fun s =>
      let (old, presences) := s.presences.pop (fun _ => some id.guild) id
      (old, { s with presences })
    return old.map .presence
  | .voiceState id => do
    let old ← takes fun s =>
      let (old, voiceStates) := s.voiceStates.pop (fun _ => some id.guild) id
      (old, { s with voiceStates })
    return old.map .voiceState

end InPlace
end GuildFeed.Store
