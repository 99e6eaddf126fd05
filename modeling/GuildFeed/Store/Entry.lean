import GuildFeed.Guild

namespace GuildFeed

structure GuildEntry where
  id : GuildId
  name : String
  ownerId : UserId
  icon : Option String
  description : Option String
  /-- Kept in a word of 64 bits; `Store.memberCount_run_lt` says when it fits. -/
  memberCount : Nat
  deriving DecidableEq

def GuildEntry.ofGuild (g : Guild) : GuildEntry where
  id := g.id
  name := g.name
  ownerId := g.ownerId
  icon := g.icon
  description := g.description
  memberCount := (g.memberCount.map UInt64.toNat).getD g.members.length

def GuildEntry.merge (e : GuildEntry) (u : GuildUpdate) : GuildEntry :=
  { e with
    name := u.name.apply e.name
    ownerId := u.ownerId.apply e.ownerId
    icon := u.icon.applyNullable e.icon
    description := u.description.applyNullable e.description }

structure ChannelEntry where
  id : ChannelId
  guildId : Option GuildId
  kind : ChannelKind
  name : Option String
  position : Int64
  parentId : Option ChannelId
  topic : Option String
  nsfw : Bool
  deriving DecidableEq

namespace ChannelEntry

/-- A channel of `guildId`, or if none is given of the guild that the channel names. -/
def ofChannel (c : Channel) (guildId : Option GuildId) : ChannelEntry where
  id := c.id
  guildId := guildId <|> c.guildId
  kind := c.kind
  name := c.name
  position := c.position.getD 0
  parentId := c.parentId
  topic := c.topic
  nsfw := c.nsfw

def merge (e : ChannelEntry) (u : ChannelUpdate) : ChannelEntry :=
  { e with
    kind := u.kind.apply e.kind
    name := u.name.applyNullable e.name
    position := u.position.apply e.position
    parentId := u.parentId.applyNullable e.parentId
    topic := u.topic.applyNullable e.topic
    nsfw := u.nsfw.apply e.nsfw }

def ofUpdate? (u : ChannelUpdate) : Option ChannelEntry :=
  u.kind.value?.map fun kind =>
    { id := u.id
      guildId := u.guildId
      kind
      name := u.name.value?
      position := u.position.value?.getD 0
      parentId := u.parentId.value?
      topic := u.topic.value?
      nsfw := u.nsfw.value?.getD false }

def order (a b : ChannelEntry) : Ordering :=
  compareLex (compareOn (·.position.toInt)) (compareOn (·.id)) a b

end ChannelEntry

structure RoleEntry where
  id : RoleId
  guildId : GuildId
  name : String
  position : Int64
  permissions : Permissions
  color : UInt32
  hoist : Bool
  managed : Bool
  mentionable : Bool
  deriving DecidableEq

namespace RoleEntry

def ofRole (r : Role) (guildId : GuildId) : RoleEntry where
  id := r.id
  guildId := guildId
  name := r.name
  position := r.position
  permissions := r.permissions
  color := r.color
  hoist := r.hoist
  managed := r.managed
  mentionable := r.mentionable

def isEveryone (r : RoleEntry) : Bool := r.id.word = r.guildId.word

def order (a b : RoleEntry) : Ordering :=
  compareLex (compareOn (·.position.toInt)) (compareOn (·.id)) a b

end RoleEntry

structure EmojiEntry where
  id : EmojiId
  guildId : GuildId
  name : Option String
  roles : List RoleId
  animated : Bool
  managed : Bool
  requireColons : Bool
  available : Bool
  deriving DecidableEq

def EmojiEntry.ofEmoji? (e : Emoji) (guildId : GuildId) : Option EmojiEntry :=
  e.id.map fun id =>
    { id
      guildId
      name := e.name
      roles := e.roles
      animated := e.animated
      managed := e.managed
      requireColons := e.requireColons
      available := e.available }

structure MemberEntry where
  guildId : GuildId
  user : User
  nick : Option String
  roles : List RoleId
  joinedAt : Option String
  deaf : Bool
  mute : Bool
  deriving DecidableEq

namespace MemberEntry

def id (m : MemberEntry) : MemberId := ⟨m.guildId, m.user.id⟩

def ofMember (m : Member) (guildId : GuildId) : MemberEntry where
  guildId := guildId
  user := m.user
  nick := m.nick
  roles := m.roles
  joinedAt := m.joinedAt
  deaf := m.deaf
  mute := m.mute

def ofUpdate (u : MemberUpdate) : MemberEntry where
  guildId := u.guildId
  user := u.user
  nick := u.nick.value?
  roles := u.roles.value?.getD []
  joinedAt := u.joinedAt.value?
  deaf := u.deaf.value?.getD false
  mute := u.mute.value?.getD false

def merge (m : MemberEntry) (u : MemberUpdate) : MemberEntry :=
  { m with
    user := u.user
    nick := u.nick.applyNullable m.nick
    roles := u.roles.apply m.roles
    joinedAt := u.joinedAt.applyNullable m.joinedAt
    deaf := u.deaf.apply m.deaf
    mute := u.mute.apply m.mute }

def displayName (m : MemberEntry) : String := m.nick.getD m.user.username

def strip (m : MemberEntry) (role : RoleId) : MemberEntry :=
  { m with roles := m.roles.filter (· ≠ role) }

end MemberEntry

structure PresenceEntry where
  guildId : GuildId
  userId : UserId
  presence : Presence
  deriving DecidableEq

namespace PresenceEntry

def id (p : PresenceEntry) : MemberId := ⟨p.guildId, p.userId⟩

def merge (p : PresenceEntry) (u : PresenceUpdate) : PresenceEntry :=
  { p with presence := p.presence.merge u.status u.activity }

def start (guildId : GuildId) (userId : UserId) : PresenceEntry := ⟨guildId, userId, .start⟩

end PresenceEntry

structure VoiceEntry where
  guildId : GuildId
  userId : UserId
  channelId : ChannelId
  sessionId : String
  deaf : Bool
  mute : Bool
  selfDeaf : Bool
  selfMute : Bool
  suppress : Bool
  deriving DecidableEq

namespace VoiceEntry

def id (v : VoiceEntry) : MemberId := ⟨v.guildId, v.userId⟩

def ofVoiceState? (v : VoiceState) (guildId : GuildId) : Option VoiceEntry :=
  v.channelId.map fun channelId =>
    { guildId
      userId := v.userId
      channelId
      sessionId := v.sessionId
      deaf := v.deaf
      mute := v.mute
      selfDeaf := v.selfDeaf
      selfMute := v.selfMute
      suppress := v.suppress }

end VoiceEntry
end GuildFeed
