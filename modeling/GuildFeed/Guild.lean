import GuildFeed.Channel
import GuildFeed.Emoji
import GuildFeed.Member
import GuildFeed.Role
import GuildFeed.VoiceState

namespace GuildFeed

structure Guild where
  id : GuildId
  name : String
  ownerId : UserId
  icon : Option String
  description : Option String
  memberCount : Option UInt64
  unavailable : Bool
  channels : List Channel
  roles : List Role
  emojis : List Emoji
  members : List Member
  presences : List PresenceUpdate
  voiceStates : List VoiceState
  deriving DecidableEq

namespace Guild

def shape : Shape Guild :=
  mk <$> .required "id" Snowflake.read
    <*> .defaulted "name" "" Reader.string
    <*> .required "owner_id" Snowflake.read
    <*> .optional "icon" Reader.string
    <*> .optional "description" Reader.string
    <*> .optional "member_count" Reader.u64
    <*> .defaulted "unavailable" false Reader.bool
    <*> .defaulted "channels" [] (Reader.list Channel.read)
    <*> .defaulted "roles" [] (Reader.list Role.read)
    <*> .defaulted "emojis" [] (Reader.list Emoji.read)
    <*> .defaulted "members" [] (Reader.list Member.read)
    <*> .defaulted "presences" [] (Reader.list PresenceUpdate.read)
    <*> .defaulted "voice_states" [] (Reader.list VoiceState.read)

def read : Reader Guild := shape.read "Guild"

def render (g : Guild) : Json :=
  .ofFields
    [("id", g.id.render),
      ("name", .string g.name),
      ("owner_id", g.ownerId.render),
      ("icon", .ofOption .string g.icon),
      ("description", .ofOption .string g.description),
      ("member_count", .ofOption (fun n => .ofNat n.toNat) g.memberCount),
      ("unavailable", .bool g.unavailable),
      ("channels", .ofList Channel.render g.channels),
      ("roles", .ofList Role.render g.roles),
      ("emojis", .ofList Emoji.render g.emojis),
      ("members", .ofList Member.render g.members),
      ("presences", .ofList PresenceUpdate.render g.presences),
      ("voice_states", .ofList VoiceState.render g.voiceStates)]

end Guild

structure GuildUpdate where
  id : GuildId
  name : Patch String
  ownerId : Patch UserId
  icon : Patch String
  description : Patch String
  deriving DecidableEq

namespace GuildUpdate

def shape : Shape GuildUpdate :=
  mk <$> .required "id" Snowflake.read
    <*> .patched "name" Reader.string
    <*> .patched "owner_id" Snowflake.read
    <*> .patched "icon" Reader.string
    <*> .patched "description" Reader.string

def read : Reader GuildUpdate := shape.read "GuildUpdate"

def render (u : GuildUpdate) : Json :=
  .ofPresent
    [("id", some u.id.render),
      ("name", u.name.render? .string),
      ("owner_id", u.ownerId.render? Snowflake.render),
      ("icon", u.icon.render? .string),
      ("description", u.description.render? .string)]

end GuildUpdate

/-- A guild that cannot be seen: through an outage if `unavailable`, else because it was left or
deleted. -/
structure GuildNotice where
  id : GuildId
  unavailable : Bool
  deriving DecidableEq

namespace GuildNotice

def shape : Shape GuildNotice :=
  mk <$> .required "id" Snowflake.read <*> .defaulted "unavailable" false Reader.bool

def readDelete : Reader GuildNotice := shape.read "GuildDelete"

def readListed : Reader GuildNotice := shape.read "UnavailableGuild"

def render (n : GuildNotice) : Json :=
  .ofFields [("id", n.id.render), ("unavailable", .bool n.unavailable)]

end GuildNotice
end GuildFeed
