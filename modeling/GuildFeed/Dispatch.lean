import GuildFeed.Guild

namespace GuildFeed

structure Ready where
  version : UInt8
  user : User
  guilds : List GuildNotice
  sessionId : String
  deriving DecidableEq

namespace Ready

def shape : Shape Ready :=
  mk <$> .defaulted "v" 0 Reader.u8
    <*> .required "user" User.read
    <*> .defaulted "guilds" [] (Reader.list GuildNotice.readListed)
    <*> .defaulted "session_id" "" Reader.string

def read : Reader Ready := shape.read "Ready"

def render (r : Ready) : Json :=
  .ofFields
    [("v", .ofNat r.version.toNat),
      ("user", r.user.render),
      ("guilds", .ofList GuildNotice.render r.guilds),
      ("session_id", .string r.sessionId)]

def listed (r : Ready) : List GuildId := r.guilds.map (·.id)

end Ready

inductive Dispatch
  | channelCreate (channel : Channel)
  | channelDelete (channel : Channel)
  | channelUpdate (update : ChannelUpdate)
  | guildCreate (guild : Guild)
  | guildDelete (notice : GuildNotice)
  | emojisUpdate (set : EmojiSet)
  | guildUpdate (update : GuildUpdate)
  | memberAdd (member : MemberAdd)
  | membersChunk (chunk : MembersChunk)
  | memberRemove (member : MemberRemove)
  | memberUpdate (update : MemberUpdate)
  | presenceUpdate (update : PresenceUpdate)
  | ready (ready : Ready)
  | roleCreate (role : GuildRole)
  | roleDelete (role : RoleDelete)
  | roleUpdate (role : GuildRole)
  | userUpdate (user : User)
  | voiceStateUpdate (state : VoiceState)
  | unknown (name : String) (payload : Json)
  deriving DecidableEq

namespace Dispatch

inductive Kind
  | channelCreate
  | channelDelete
  | channelUpdate
  | guildCreate
  | guildDelete
  | emojisUpdate
  | guildUpdate
  | memberAdd
  | membersChunk
  | memberRemove
  | memberUpdate
  | presenceUpdate
  | ready
  | roleCreate
  | roleDelete
  | roleUpdate
  | userUpdate
  | voiceStateUpdate
  deriving DecidableEq

namespace Kind

def all : List Kind :=
  [channelCreate, channelDelete, channelUpdate, guildCreate, guildDelete, emojisUpdate,
    guildUpdate, memberAdd, membersChunk, memberRemove, memberUpdate, presenceUpdate, ready,
    roleCreate, roleDelete, roleUpdate, userUpdate, voiceStateUpdate]

theorem mem_all (k : Kind) : k ∈ all := by cases k <;> decide

def name : Kind → String
  | channelCreate => "CHANNEL_CREATE"
  | channelDelete => "CHANNEL_DELETE"
  | channelUpdate => "CHANNEL_UPDATE"
  | guildCreate => "GUILD_CREATE"
  | guildDelete => "GUILD_DELETE"
  | emojisUpdate => "GUILD_EMOJIS_UPDATE"
  | guildUpdate => "GUILD_UPDATE"
  | memberAdd => "GUILD_MEMBER_ADD"
  | membersChunk => "GUILD_MEMBERS_CHUNK"
  | memberRemove => "GUILD_MEMBER_REMOVE"
  | memberUpdate => "GUILD_MEMBER_UPDATE"
  | presenceUpdate => "PRESENCE_UPDATE"
  | ready => "READY"
  | roleCreate => "GUILD_ROLE_CREATE"
  | roleDelete => "GUILD_ROLE_DELETE"
  | roleUpdate => "GUILD_ROLE_UPDATE"
  | userUpdate => "USER_UPDATE"
  | voiceStateUpdate => "VOICE_STATE_UPDATE"

def ofName? : String → Option Kind
  | "CHANNEL_CREATE" => some channelCreate
  | "CHANNEL_DELETE" => some channelDelete
  | "CHANNEL_UPDATE" => some channelUpdate
  | "GUILD_CREATE" => some guildCreate
  | "GUILD_DELETE" => some guildDelete
  | "GUILD_EMOJIS_UPDATE" => some emojisUpdate
  | "GUILD_UPDATE" => some guildUpdate
  | "GUILD_MEMBER_ADD" => some memberAdd
  | "GUILD_MEMBERS_CHUNK" => some membersChunk
  | "GUILD_MEMBER_REMOVE" => some memberRemove
  | "GUILD_MEMBER_UPDATE" => some memberUpdate
  | "GUILD_ROLE_CREATE" => some roleCreate
  | "GUILD_ROLE_DELETE" => some roleDelete
  | "GUILD_ROLE_UPDATE" => some roleUpdate
  | "PRESENCE_UPDATE" => some presenceUpdate
  | "READY" => some ready
  | "USER_UPDATE" => some userUpdate
  | "VOICE_STATE_UPDATE" => some voiceStateUpdate
  | _ => none

def read : Kind → Reader Dispatch
  | channelCreate => fun v => (Channel.read v).map .channelCreate
  | channelDelete => fun v => (Channel.read v).map .channelDelete
  | channelUpdate => fun v => (ChannelUpdate.read v).map .channelUpdate
  | guildCreate => fun v => (Guild.read v).map .guildCreate
  | guildDelete => fun v => (GuildNotice.readDelete v).map .guildDelete
  | emojisUpdate => fun v => (EmojiSet.read v).map .emojisUpdate
  | guildUpdate => fun v => (GuildUpdate.read v).map .guildUpdate
  | memberAdd => fun v => (MemberAdd.read v).map .memberAdd
  | membersChunk => fun v => (MembersChunk.read v).map .membersChunk
  | memberRemove => fun v => (MemberRemove.read v).map .memberRemove
  | memberUpdate => fun v => (MemberUpdate.read v).map .memberUpdate
  | presenceUpdate => fun v => (PresenceUpdate.read v).map .presenceUpdate
  | ready => fun v => (Ready.read v).map .ready
  | roleCreate => fun v => (GuildRole.readCreate v).map .roleCreate
  | roleDelete => fun v => (RoleDelete.read v).map .roleDelete
  | roleUpdate => fun v => (GuildRole.readUpdate v).map .roleUpdate
  | userUpdate => fun v => (User.read v).map .userUpdate
  | voiceStateUpdate => fun v => (VoiceState.read v).map .voiceStateUpdate

end Kind

def kind? : Dispatch → Option Kind
  | channelCreate _ => some .channelCreate
  | channelDelete _ => some .channelDelete
  | channelUpdate _ => some .channelUpdate
  | guildCreate _ => some .guildCreate
  | guildDelete _ => some .guildDelete
  | emojisUpdate _ => some .emojisUpdate
  | guildUpdate _ => some .guildUpdate
  | memberAdd _ => some .memberAdd
  | membersChunk _ => some .membersChunk
  | memberRemove _ => some .memberRemove
  | memberUpdate _ => some .memberUpdate
  | presenceUpdate _ => some .presenceUpdate
  | ready _ => some .ready
  | roleCreate _ => some .roleCreate
  | roleDelete _ => some .roleDelete
  | roleUpdate _ => some .roleUpdate
  | userUpdate _ => some .userUpdate
  | voiceStateUpdate _ => some .voiceStateUpdate
  | unknown _ _ => none

def isUnknown (d : Dispatch) : Bool := d.kind?.isNone

def name : Dispatch → String
  | unknown name _ => name
  | d => (d.kind?.map Kind.name).getD ""

def render : Dispatch → Json
  | channelCreate c | channelDelete c => c.render
  | channelUpdate u => u.render
  | guildCreate g => g.render
  | guildDelete n => n.render
  | emojisUpdate s => s.render
  | guildUpdate u => u.render
  | memberAdd a => a.render
  | membersChunk c => c.render
  | memberRemove r => r.render
  | memberUpdate u => u.render
  | presenceUpdate u => u.render
  | ready r => r.render
  | roleCreate r | roleUpdate r => r.render
  | roleDelete r => r.render
  | userUpdate u => u.render
  | voiceStateUpdate v => v.render
  | unknown _ payload => payload

end Dispatch
end GuildFeed
