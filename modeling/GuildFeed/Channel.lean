import GuildFeed.Record.Shape
import GuildFeed.Snowflake

namespace GuildFeed

inductive ChannelKind
  | guildText
  | direct
  | guildVoice
  | group
  | guildCategory
  | guildNews
  | guildStore
  | guildStageVoice
  | unknown (number : UInt8)
  deriving DecidableEq

namespace ChannelKind

def ofNumber (n : UInt8) : ChannelKind :=
  match n.toNat with
  | 0 => guildText
  | 1 => direct
  | 2 => guildVoice
  | 3 => group
  | 4 => guildCategory
  | 5 => guildNews
  | 6 => guildStore
  | 13 => guildStageVoice
  | _ => unknown n

def number : ChannelKind → UInt8
  | guildText => 0
  | direct => 1
  | guildVoice => 2
  | group => 3
  | guildCategory => 4
  | guildNews => 5
  | guildStore => 6
  | guildStageVoice => 13
  | unknown n => n

def isCategory : ChannelKind → Bool
  | guildCategory => true
  | _ => false

def isCategorizable : ChannelKind → Bool
  | guildText | guildVoice | guildNews | guildStore | guildStageVoice => true
  | _ => false

def describe : ChannelKind → String
  | guildText => "GuildText"
  | direct => "Private"
  | guildVoice => "GuildVoice"
  | group => "Group"
  | guildCategory => "GuildCategory"
  | guildNews => "GuildNews"
  | guildStore => "GuildStore"
  | guildStageVoice => "GuildStageVoice"
  | unknown n => "Unknown(" ++ toString n.toNat ++ ")"

def read : Reader ChannelKind := fun v => (Reader.u8 v).map ofNumber

def render (k : ChannelKind) : Json := .ofNat k.number.toNat

end ChannelKind

structure Channel where
  id : ChannelId
  kind : ChannelKind
  guildId : Option GuildId
  name : Option String
  position : Option Int64
  parentId : Option ChannelId
  topic : Option String
  nsfw : Bool
  deriving DecidableEq

namespace Channel

def shape : Shape Channel :=
  mk <$> .required "id" Snowflake.read
    <*> .required "type" ChannelKind.read
    <*> .optional "guild_id" Snowflake.read
    <*> .optional "name" Reader.string
    <*> .optional "position" Reader.i64
    <*> .optional "parent_id" Snowflake.read
    <*> .optional "topic" Reader.string
    <*> .defaulted "nsfw" false Reader.bool

def read : Reader Channel := shape.read "Channel"

def render (c : Channel) : Json :=
  .ofFields
    [("id", c.id.render),
      ("type", c.kind.render),
      ("guild_id", .ofOption Snowflake.render c.guildId),
      ("name", .ofOption .string c.name),
      ("position", .ofOption (fun n => .integer n.toInt) c.position),
      ("parent_id", .ofOption Snowflake.render c.parentId),
      ("topic", .ofOption .string c.topic),
      ("nsfw", .bool c.nsfw)]

end Channel

structure ChannelUpdate where
  id : ChannelId
  guildId : Option GuildId
  kind : Patch ChannelKind
  name : Patch String
  position : Patch Int64
  parentId : Patch ChannelId
  topic : Patch String
  nsfw : Patch Bool
  deriving DecidableEq

namespace ChannelUpdate

def shape : Shape ChannelUpdate :=
  mk <$> .required "id" Snowflake.read
    <*> .optional "guild_id" Snowflake.read
    <*> .patched "type" ChannelKind.read
    <*> .patched "name" Reader.string
    <*> .patched "position" Reader.i64
    <*> .patched "parent_id" Snowflake.read
    <*> .patched "topic" Reader.string
    <*> .patched "nsfw" Reader.bool

def read : Reader ChannelUpdate := shape.read "ChannelUpdate"

def render (u : ChannelUpdate) : Json :=
  .ofPresent
    [("id", some u.id.render),
      ("guild_id", some (.ofOption Snowflake.render u.guildId)),
      ("type", u.kind.render? ChannelKind.render),
      ("name", u.name.render? .string),
      ("position", u.position.render? fun n => .integer n.toInt),
      ("parent_id", u.parentId.render? Snowflake.render),
      ("topic", u.topic.render? .string),
      ("nsfw", u.nsfw.render? .bool)]

end ChannelUpdate
end GuildFeed
