import GuildFeed.Dispatch
import GuildFeed.Record.Rendering

namespace GuildFeed

def Snowflake.rendering {kind : Kind} : Rendering (Snowflake kind) := fun id => Rendering.word id.word

def Permissions.rendering : Rendering Permissions := fun p => Rendering.word p.bits

def ChannelKind.rendering : Rendering ChannelKind := .exactly ChannelKind.render

def ActivityKind.rendering : Rendering ActivityKind := .exactly ActivityKind.render

inductive Status.Rendered : Rendering Status
  | word (s : Status) : Rendered s (.string s.word)
  | offline : Rendered invisible (.string "offline")

namespace Rendering

def string : Rendering String := .exactly .string

def bool : Rendering Bool := .exactly .bool

def u8 : Rendering UInt8 := .exactly fun n => .integer n.toNat

def u32 : Rendering UInt32 := .exactly fun n => .integer n.toNat

def u64 : Rendering UInt64 := .exactly fun n => .integer n.toNat

def i64 : Rendering Int64 := .exactly fun n => .integer n.toInt

end Rendering

open Rendering

/-! ## Users and what they do -/

structure User.Renders (u : User) (fs : Json.Fields) : Prop where
  id : fs.Required "id" Snowflake.rendering u.id
  username : fs.Defaulted "username" "" string u.username
  discriminator : fs.Optional "discriminator" string u.discriminator
  avatar : fs.Optional "avatar" string u.avatar
  bot : fs.Defaulted "bot" false bool u.bot

def User.rendering : Rendering User := object User.Renders

structure PartialUser.Renders (u : PartialUser) (fs : Json.Fields) : Prop where
  id : fs.Required "id" Snowflake.rendering u.id

def PartialUser.rendering : Rendering PartialUser := object PartialUser.Renders

structure ActivitySpan.Renders (t : ActivitySpan) (fs : Json.Fields) : Prop where
  start : fs.Optional "start" u64 t.start
  stop : fs.Optional "end" u64 t.stop

def ActivitySpan.rendering : Rendering ActivitySpan := object ActivitySpan.Renders

structure Activity.Renders (a : Activity) (fs : Json.Fields) : Prop where
  name : fs.Required "name" string a.name
  kind : fs.Required "type" ActivityKind.rendering a.kind
  url : fs.Optional "url" string a.url
  span : fs.Optional "timestamps" ActivitySpan.rendering a.span
  state : fs.Optional "state" string a.state

def Activity.rendering : Rendering Activity := object Activity.Renders

structure PresenceUpdate.Renders (u : PresenceUpdate) (fs : Json.Fields) : Prop where
  user : fs.Required "user" PartialUser.rendering u.user
  guildId : fs.Optional "guild_id" Snowflake.rendering u.guildId
  status : fs.Patched "status" Status.Rendered u.status
  activity : fs.PatchedEither "activity" "game" Activity.rendering u.activity

def PresenceUpdate.rendering : Rendering PresenceUpdate := object PresenceUpdate.Renders

/-! ## What a guild holds -/

structure Channel.Renders (c : Channel) (fs : Json.Fields) : Prop where
  id : fs.Required "id" Snowflake.rendering c.id
  kind : fs.Required "type" ChannelKind.rendering c.kind
  guildId : fs.Optional "guild_id" Snowflake.rendering c.guildId
  name : fs.Optional "name" string c.name
  position : fs.Optional "position" i64 c.position
  parentId : fs.Optional "parent_id" Snowflake.rendering c.parentId
  topic : fs.Optional "topic" string c.topic
  nsfw : fs.Defaulted "nsfw" false bool c.nsfw

def Channel.rendering : Rendering Channel := object Channel.Renders

structure ChannelUpdate.Renders (u : ChannelUpdate) (fs : Json.Fields) : Prop where
  id : fs.Required "id" Snowflake.rendering u.id
  guildId : fs.Optional "guild_id" Snowflake.rendering u.guildId
  kind : fs.Patched "type" ChannelKind.rendering u.kind
  name : fs.Patched "name" string u.name
  position : fs.Patched "position" i64 u.position
  parentId : fs.Patched "parent_id" Snowflake.rendering u.parentId
  topic : fs.Patched "topic" string u.topic
  nsfw : fs.Patched "nsfw" bool u.nsfw

def ChannelUpdate.rendering : Rendering ChannelUpdate := object ChannelUpdate.Renders

structure Role.Renders (r : Role) (fs : Json.Fields) : Prop where
  id : fs.Required "id" Snowflake.rendering r.id
  name : fs.Defaulted "name" "" string r.name
  permissions : fs.Defaulted "permissions" .empty Permissions.rendering r.permissions
  position : fs.Defaulted "position" 0 i64 r.position
  color : fs.Defaulted "color" 0 u32 r.color
  hoist : fs.Defaulted "hoist" false bool r.hoist
  managed : fs.Defaulted "managed" false bool r.managed
  mentionable : fs.Defaulted "mentionable" false bool r.mentionable

def Role.rendering : Rendering Role := object Role.Renders

structure GuildRole.Renders (r : GuildRole) (fs : Json.Fields) : Prop where
  guildId : fs.Required "guild_id" Snowflake.rendering r.guildId
  role : fs.Required "role" Role.rendering r.role

def GuildRole.rendering : Rendering GuildRole := object GuildRole.Renders

structure RoleDelete.Renders (r : RoleDelete) (fs : Json.Fields) : Prop where
  guildId : fs.Required "guild_id" Snowflake.rendering r.guildId
  roleId : fs.Required "role_id" Snowflake.rendering r.roleId

def RoleDelete.rendering : Rendering RoleDelete := object RoleDelete.Renders

structure Emoji.Renders (e : Emoji) (fs : Json.Fields) : Prop where
  id : fs.Optional "id" Snowflake.rendering e.id
  name : fs.Optional "name" string e.name
  roles : fs.Defaulted "roles" [] (list Snowflake.rendering) e.roles
  animated : fs.Defaulted "animated" false bool e.animated
  managed : fs.Defaulted "managed" false bool e.managed
  requireColons : fs.Defaulted "require_colons" false bool e.requireColons
  available : fs.Defaulted "available" true bool e.available

def Emoji.rendering : Rendering Emoji := object Emoji.Renders

structure EmojiSet.Renders (s : EmojiSet) (fs : Json.Fields) : Prop where
  guildId : fs.Required "guild_id" Snowflake.rendering s.guildId
  emojis : fs.Defaulted "emojis" [] (list Emoji.rendering) s.emojis

def EmojiSet.rendering : Rendering EmojiSet := object EmojiSet.Renders

structure VoiceState.Renders (v : VoiceState) (fs : Json.Fields) : Prop where
  guildId : fs.Optional "guild_id" Snowflake.rendering v.guildId
  channelId : fs.Optional "channel_id" Snowflake.rendering v.channelId
  userId : fs.Required "user_id" Snowflake.rendering v.userId
  sessionId : fs.Defaulted "session_id" "" string v.sessionId
  deaf : fs.Defaulted "deaf" false bool v.deaf
  mute : fs.Defaulted "mute" false bool v.mute
  selfDeaf : fs.Defaulted "self_deaf" false bool v.selfDeaf
  selfMute : fs.Defaulted "self_mute" false bool v.selfMute
  suppress : fs.Defaulted "suppress" false bool v.suppress

def VoiceState.rendering : Rendering VoiceState := object VoiceState.Renders

/-! ## Members -/

structure Member.Renders (m : Member) (fs : Json.Fields) : Prop where
  user : fs.Required "user" User.rendering m.user
  nick : fs.Optional "nick" string m.nick
  roles : fs.Defaulted "roles" [] (list Snowflake.rendering) m.roles
  joinedAt : fs.Optional "joined_at" string m.joinedAt
  deaf : fs.Defaulted "deaf" false bool m.deaf
  mute : fs.Defaulted "mute" false bool m.mute

def Member.rendering : Rendering Member := object Member.Renders

structure MemberAdd.Renders (a : MemberAdd) (fs : Json.Fields) : Prop where
  guildId : fs.Required "guild_id" Snowflake.rendering a.guildId
  member : a.member.Renders fs

def MemberAdd.rendering : Rendering MemberAdd := object MemberAdd.Renders

structure MemberUpdate.Renders (u : MemberUpdate) (fs : Json.Fields) : Prop where
  guildId : fs.Required "guild_id" Snowflake.rendering u.guildId
  user : fs.Required "user" User.rendering u.user
  nick : fs.Patched "nick" string u.nick
  roles : fs.Patched "roles" (list Snowflake.rendering) u.roles
  joinedAt : fs.Patched "joined_at" string u.joinedAt
  deaf : fs.Patched "deaf" bool u.deaf
  mute : fs.Patched "mute" bool u.mute

def MemberUpdate.rendering : Rendering MemberUpdate := object MemberUpdate.Renders

structure MemberRemove.Renders (r : MemberRemove) (fs : Json.Fields) : Prop where
  guildId : fs.Required "guild_id" Snowflake.rendering r.guildId
  user : fs.Required "user" User.rendering r.user

def MemberRemove.rendering : Rendering MemberRemove := object MemberRemove.Renders

structure MembersChunk.Renders (c : MembersChunk) (fs : Json.Fields) : Prop where
  guildId : fs.Required "guild_id" Snowflake.rendering c.guildId
  members : fs.Defaulted "members" [] (list Member.rendering) c.members
  presences : fs.Defaulted "presences" [] (list PresenceUpdate.rendering) c.presences
  index : fs.Defaulted "chunk_index" 0 u32 c.index
  count : fs.Defaulted "chunk_count" 0 u32 c.count

def MembersChunk.rendering : Rendering MembersChunk := object MembersChunk.Renders

/-! ## Guilds and sessions -/

structure Guild.Renders (g : Guild) (fs : Json.Fields) : Prop where
  id : fs.Required "id" Snowflake.rendering g.id
  name : fs.Defaulted "name" "" string g.name
  ownerId : fs.Required "owner_id" Snowflake.rendering g.ownerId
  icon : fs.Optional "icon" string g.icon
  description : fs.Optional "description" string g.description
  memberCount : fs.Optional "member_count" u64 g.memberCount
  unavailable : fs.Defaulted "unavailable" false bool g.unavailable
  channels : fs.Defaulted "channels" [] (list Channel.rendering) g.channels
  roles : fs.Defaulted "roles" [] (list Role.rendering) g.roles
  emojis : fs.Defaulted "emojis" [] (list Emoji.rendering) g.emojis
  members : fs.Defaulted "members" [] (list Member.rendering) g.members
  presences : fs.Defaulted "presences" [] (list PresenceUpdate.rendering) g.presences
  voiceStates : fs.Defaulted "voice_states" [] (list VoiceState.rendering) g.voiceStates

def Guild.rendering : Rendering Guild := object Guild.Renders

structure GuildUpdate.Renders (u : GuildUpdate) (fs : Json.Fields) : Prop where
  id : fs.Required "id" Snowflake.rendering u.id
  name : fs.Patched "name" string u.name
  ownerId : fs.Patched "owner_id" Snowflake.rendering u.ownerId
  icon : fs.Patched "icon" string u.icon
  description : fs.Patched "description" string u.description

def GuildUpdate.rendering : Rendering GuildUpdate := object GuildUpdate.Renders

structure GuildNotice.Renders (n : GuildNotice) (fs : Json.Fields) : Prop where
  id : fs.Required "id" Snowflake.rendering n.id
  unavailable : fs.Defaulted "unavailable" false bool n.unavailable

def GuildNotice.rendering : Rendering GuildNotice := object GuildNotice.Renders

structure Ready.Renders (r : Ready) (fs : Json.Fields) : Prop where
  version : fs.Defaulted "v" 0 u8 r.version
  user : fs.Required "user" User.rendering r.user
  guilds : fs.Defaulted "guilds" [] (list GuildNotice.rendering) r.guilds
  sessionId : fs.Defaulted "session_id" "" string r.sessionId

def Ready.rendering : Rendering Ready := object Ready.Renders

/-! ## Dispatches -/

namespace Dispatch

def rendering : Rendering Dispatch
  | channelCreate c | channelDelete c => c.rendering
  | channelUpdate u => u.rendering
  | guildCreate g => g.rendering
  | guildDelete n => n.rendering
  | emojisUpdate s => s.rendering
  | guildUpdate u => u.rendering
  | memberAdd a => a.rendering
  | membersChunk c => c.rendering
  | memberRemove r => r.rendering
  | memberUpdate u => u.rendering
  | presenceUpdate u => u.rendering
  | ready r => r.rendering
  | roleCreate r | roleUpdate r => r.rendering
  | roleDelete r => r.rendering
  | userUpdate u => u.rendering
  | voiceStateUpdate v => v.rendering
  | unknown _ payload => (· = payload)

end Dispatch

/-- An unknown kind has a number that no known kind has. -/
def ChannelKind.Proper : ChannelKind → Prop
  | unknown n => n ∉ [guildText, direct, guildVoice, group, guildCategory, guildNews, guildStore,
      guildStageVoice].map number
  | _ => True

def Dispatch.Proper : Dispatch → Prop
  | channelCreate c | channelDelete c => c.kind.Proper
  | channelUpdate u => ∀ kind, u.kind = .value kind → kind.Proper
  | guildCreate g => ∀ c ∈ g.channels, c.kind.Proper
  | _ => True

end GuildFeed
