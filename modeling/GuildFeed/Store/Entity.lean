import GuildFeed.Store.Entry

namespace GuildFeed

inductive EntityKey
  | guild (id : GuildId)
  | channel (id : ChannelId)
  | role (id : RoleId)
  | emoji (id : EmojiId)
  | member (id : MemberId)
  | presence (id : MemberId)
  | voiceState (id : MemberId)
  deriving DecidableEq

namespace EntityKey

def describePair (id : MemberId) : String :=
  "(" ++ id.guild.describe ++ ", " ++ id.user.describe ++ ")"

def describe : EntityKey → String
  | guild id => "Guild(" ++ id.describe ++ ")"
  | channel id => "Channel(" ++ id.describe ++ ")"
  | role id => "Role(" ++ id.describe ++ ")"
  | emoji id => "Emoji(" ++ id.describe ++ ")"
  | member id => "Member" ++ describePair id
  | presence id => "Presence" ++ describePair id
  | voiceState id => "VoiceState" ++ describePair id

end EntityKey

inductive Entity
  | guild (entry : GuildEntry)
  | channel (entry : ChannelEntry)
  | role (entry : RoleEntry)
  | emoji (entry : EmojiEntry)
  | member (entry : MemberEntry)
  | presence (entry : PresenceEntry)
  | voiceState (entry : VoiceEntry)
  deriving DecidableEq

namespace Entity

def key : Entity → EntityKey
  | guild e => .guild e.id
  | channel e => .channel e.id
  | role e => .role e.id
  | emoji e => .emoji e.id
  | member e => .member e.id
  | presence e => .presence e.id
  | voiceState e => .voiceState e.id

def owner? : Entity → Option GuildId
  | guild _ => none
  | channel e => e.guildId
  | role e => some e.guildId
  | emoji e => some e.guildId
  | member e => some e.guildId
  | presence e => some e.guildId
  | voiceState e => some e.guildId

end Entity

inductive StoreError
  | inconsistentReference (entity missing : EntityKey)
  | missingGuildId (event : String)
  deriving DecidableEq

namespace StoreError

def kind : StoreError → String
  | inconsistentReference _ _ => "InconsistentReference"
  | missingGuildId _ => "MissingGuildId"

def message : StoreError → String
  | inconsistentReference entity missing =>
    entity.describe ++ " references " ++ missing.describe ++ ", which is not cached"
  | missingGuildId event => event ++ " arrived without a guild id"

end StoreError
end GuildFeed
