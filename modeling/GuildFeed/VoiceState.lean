import GuildFeed.Record.Shape
import GuildFeed.Snowflake

namespace GuildFeed

structure VoiceState where
  guildId : Option GuildId
  channelId : Option ChannelId
  userId : UserId
  sessionId : String
  deaf : Bool
  mute : Bool
  selfDeaf : Bool
  selfMute : Bool
  suppress : Bool
  deriving DecidableEq

namespace VoiceState

def shape : Shape VoiceState :=
  mk <$> .optional "guild_id" Snowflake.read
    <*> .optional "channel_id" Snowflake.read
    <*> .required "user_id" Snowflake.read
    <*> .defaulted "session_id" "" Reader.string
    <*> .defaulted "deaf" false Reader.bool
    <*> .defaulted "mute" false Reader.bool
    <*> .defaulted "self_deaf" false Reader.bool
    <*> .defaulted "self_mute" false Reader.bool
    <*> .defaulted "suppress" false Reader.bool

def read : Reader VoiceState := shape.read "VoiceState"

def render (v : VoiceState) : Json :=
  .ofFields
    [("guild_id", .ofOption Snowflake.render v.guildId),
      ("channel_id", .ofOption Snowflake.render v.channelId),
      ("user_id", v.userId.render),
      ("session_id", .string v.sessionId),
      ("deaf", .bool v.deaf),
      ("mute", .bool v.mute),
      ("self_deaf", .bool v.selfDeaf),
      ("self_mute", .bool v.selfMute),
      ("suppress", .bool v.suppress)]

end VoiceState
end GuildFeed
