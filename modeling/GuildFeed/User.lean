import GuildFeed.Record.Shape
import GuildFeed.Snowflake

namespace GuildFeed

structure User where
  id : UserId
  username : String
  discriminator : Option String
  avatar : Option String
  bot : Bool
  deriving DecidableEq

namespace User

def shape : Shape User :=
  mk <$> .required "id" Snowflake.read
    <*> .defaulted "username" "" Reader.string
    <*> .optional "discriminator" Reader.string
    <*> .optional "avatar" Reader.string
    <*> .defaulted "bot" false Reader.bool

def read : Reader User := shape.read "User"

def readInside : Reader User := shape.readInside "User"

def render (u : User) : Json :=
  .ofFields
    [("id", u.id.render),
      ("username", .string u.username),
      ("discriminator", .ofOption .string u.discriminator),
      ("avatar", .ofOption .string u.avatar),
      ("bot", .bool u.bot)]

def tag (u : User) : String :=
  match u.discriminator with
  | none => u.username
  | some d => if d = "0" then u.username else u.username ++ "#" ++ d

end User

structure PartialUser where
  id : UserId
  deriving DecidableEq

namespace PartialUser

def shape : Shape PartialUser := mk <$> .required "id" Snowflake.read

def read : Reader PartialUser := shape.read "PartialUser"

def render (u : PartialUser) : Json := .ofFields [("id", u.id.render)]

end PartialUser
end GuildFeed
