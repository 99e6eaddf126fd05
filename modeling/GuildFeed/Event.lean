import GuildFeed.Store.Basic

namespace GuildFeed

inductive Event
  | ready (user : User) (guilds : List GuildId) (sessionId : String)
  | currentUserUpdated (old : Option User) (new : User)
  /-- `recovered` tells the end of an outage from a join. -/
  | guildAvailable (guild : GuildEntry) (recovered : Bool)
  | guildUnavailable (id : GuildId) (unavailable : Bool) (prior : Option Holdings)
  | guildUpdated (old new : GuildEntry)
  | channelCreated (channel : ChannelEntry)
  | channelUpdated (old : Option ChannelEntry) (new : ChannelEntry)
  | channelDeleted (id : ChannelId) (guildId : Option GuildId) (channel : Option ChannelEntry)
      (orphaned : List ChannelId)
  | roleCreated (role : RoleEntry)
  | roleUpdated (old : Option RoleEntry) (new : RoleEntry)
  | roleDeleted (guildId : GuildId) (id : RoleId) (role : Option RoleEntry)
  | memberAdded (member : MemberEntry)
  | memberUpdated (old : Option MemberEntry) (new : MemberEntry)
  | memberRemoved (guildId : GuildId) (user : User) (member : Option MemberEntry)
  | membersChunk (guildId : GuildId) (members presences : Nat) (index count : UInt32)
  | presenceUpdated (guildId : GuildId) (userId : UserId) (old : Option PresenceEntry)
      (new : PresenceEntry)
  | emojisUpdated (guildId : GuildId) (emojis added removed : List EmojiEntry)
      (changed : List (EmojiEntry × EmojiEntry))
  | voiceStateUpdated (guildId : GuildId) (userId : UserId) (old new : Option VoiceEntry)
  | unknown (name : String) (payload : Json)
  deriving DecidableEq

namespace Event

def kind : Event → String
  | ready .. => "ready"
  | currentUserUpdated .. => "current-user-updated"
  | guildAvailable .. => "guild-available"
  | guildUnavailable .. => "guild-unavailable"
  | guildUpdated .. => "guild-updated"
  | channelCreated .. => "channel-created"
  | channelUpdated .. => "channel-updated"
  | channelDeleted .. => "channel-deleted"
  | roleCreated .. => "role-created"
  | roleUpdated .. => "role-updated"
  | roleDeleted .. => "role-deleted"
  | memberAdded .. => "member-added"
  | memberUpdated .. => "member-updated"
  | memberRemoved .. => "member-removed"
  | membersChunk .. => "members-chunk"
  | presenceUpdated .. => "presence-updated"
  | emojisUpdated .. => "emoji-set-updated"
  | voiceStateUpdated .. => "voice-state-updated"
  | unknown .. => "unknown"

def guildId? : Event → Option GuildId
  | ready .. | currentUserUpdated .. | unknown .. => none
  | guildAvailable guild _ => some guild.id
  | guildUpdated _ new => some new.id
  | channelCreated channel => channel.guildId
  | channelUpdated _ new => new.guildId
  | channelDeleted _ guildId _ _ => guildId
  | roleCreated role => some role.guildId
  | roleUpdated _ new => some new.guildId
  | memberAdded member => some member.guildId
  | memberUpdated _ new => some new.guildId
  | guildUnavailable id _ _ => some id
  | roleDeleted guildId _ _ | memberRemoved guildId _ _ | membersChunk guildId _ _ _ _
  | presenceUpdated guildId _ _ _ | emojisUpdated guildId _ _ _ _
  | voiceStateUpdated guildId _ _ _ => some guildId

end Event
end GuildFeed
