import GuildFeed.Decoding
import GuildFeed.Store.Snapshot

/-!
# Footprints

The guilds, channels, roles and emojis that a dispatch is about. What is known of a user belongs to
a guild. Parents of channels, roles of members and channels of voice states are only passed on, so
they are not in the footprint.
-/

namespace GuildFeed

def Guild.footprint (g : Guild) : List EntityKey :=
  .guild g.id :: (g.channels.map (.channel ·.id) ++ g.roles.map (.role ·.id)
    ++ (Store.emojiEntries g.id g.emojis).map (.emoji ·.id))

def Dispatch.footprint : Dispatch → List EntityKey
  | channelCreate c => .channel c.id :: c.guildId.toList.map .guild
  | channelDelete c => [.channel c.id]
  | channelUpdate u => .channel u.id :: u.guildId.toList.map .guild
  | guildCreate g => g.footprint
  | guildDelete n => [.guild n.id]
  | emojisUpdate u => .guild u.guildId :: (Store.emojiEntries u.guildId u.emojis).map (.emoji ·.id)
  | guildUpdate u => [.guild u.id]
  | memberAdd a => [.guild a.guildId]
  | membersChunk c => [.guild c.guildId]
  | memberRemove r => [.guild r.guildId]
  | memberUpdate u => [.guild u.guildId]
  | presenceUpdate u => u.guildId.toList.map .guild
  | ready r => r.listed.map .guild
  | roleCreate r | roleUpdate r => [.guild r.guildId, .role r.role.id]
  | roleDelete r => [.role r.roleId]
  | userUpdate _ => []
  | voiceStateUpdate v => v.guildId.toList.map .guild
  | unknown _ _ => []

namespace Envelope

def dispatch? (e : Envelope) : Option Dispatch :=
  match e.decode with
  | .ok (.dispatch _ d) => some d
  | _ => none

def footprint (e : Envelope) : List EntityKey := (e.dispatch?.map Dispatch.footprint).getD []

end Envelope
end GuildFeed
