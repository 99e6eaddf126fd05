import GuildFeed.Record.Shape
import GuildFeed.Snowflake

namespace GuildFeed

structure Emoji where
  id : Option EmojiId
  name : Option String
  roles : List RoleId
  animated : Bool
  managed : Bool
  requireColons : Bool
  available : Bool
  deriving DecidableEq

namespace Emoji

def shape : Shape Emoji :=
  mk <$> .optional "id" Snowflake.read
    <*> .optional "name" Reader.string
    <*> .defaulted "roles" [] (Reader.list Snowflake.read)
    <*> .defaulted "animated" false Reader.bool
    <*> .defaulted "managed" false Reader.bool
    <*> .defaulted "require_colons" false Reader.bool
    <*> .defaulted "available" true Reader.bool

def read : Reader Emoji := shape.read "Emoji"

def render (e : Emoji) : Json :=
  .ofFields
    [("id", .ofOption Snowflake.render e.id),
      ("name", .ofOption .string e.name),
      ("roles", .ofList Snowflake.render e.roles),
      ("animated", .bool e.animated),
      ("managed", .bool e.managed),
      ("require_colons", .bool e.requireColons),
      ("available", .bool e.available)]

end Emoji

structure EmojiSet where
  guildId : GuildId
  emojis : List Emoji
  deriving DecidableEq

namespace EmojiSet

def shape : Shape EmojiSet :=
  mk <$> .required "guild_id" Snowflake.read
    <*> .defaulted "emojis" [] (Reader.list Emoji.read)

def read : Reader EmojiSet := shape.read "GuildEmojisUpdate"

def render (s : EmojiSet) : Json :=
  .ofFields [("guild_id", s.guildId.render), ("emojis", .ofList Emoji.render s.emojis)]

end EmojiSet
end GuildFeed
