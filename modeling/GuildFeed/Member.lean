import GuildFeed.Presence

namespace GuildFeed

structure Member where
  user : User
  nick : Option String
  roles : List RoleId
  joinedAt : Option String
  deaf : Bool
  mute : Bool
  deriving DecidableEq

namespace Member

def shapeWith (user : Reader User) : Shape Member :=
  mk <$> .required "user" user
    <*> .optional "nick" Reader.string
    <*> .defaulted "roles" [] (Reader.list Snowflake.read)
    <*> .optional "joined_at" Reader.string
    <*> .defaulted "deaf" false Reader.bool
    <*> .defaulted "mute" false Reader.bool

def shape : Shape Member := shapeWith User.read

def read : Reader Member := shape.read "Member"

def fields (m : Member) : Json.Fields :=
  [("user", m.user.render),
    ("nick", .ofOption .string m.nick),
    ("roles", .ofList Snowflake.render m.roles),
    ("joined_at", .ofOption .string m.joinedAt),
    ("deaf", .bool m.deaf),
    ("mute", .bool m.mute)]

def render (m : Member) : Json := .ofFields m.fields

end Member

structure MemberAdd where
  guildId : GuildId
  member : Member
  deriving DecidableEq

namespace MemberAdd

/-- Only an object can be read, and the guild before any field of the member. -/
def read : Reader MemberAdd
  | .object fs => do
    let guildId ← ((Shape.required "guild_id" Snowflake.read).fromObject fs).toExcept
    let member ← ((Member.shapeWith User.readInside).fromObject fs).toExcept
    pure ⟨guildId, member⟩
  | v => Reader.refuse (.record "MemberAdd") v

def render (a : MemberAdd) : Json := .ofFields (("guild_id", a.guildId.render) :: a.member.fields)

end MemberAdd

structure MemberUpdate where
  guildId : GuildId
  user : User
  nick : Patch String
  roles : Patch (List RoleId)
  joinedAt : Patch String
  deaf : Patch Bool
  mute : Patch Bool
  deriving DecidableEq

namespace MemberUpdate

def shape : Shape MemberUpdate :=
  mk <$> .required "guild_id" Snowflake.read
    <*> .required "user" User.read
    <*> .patched "nick" Reader.string
    <*> .patched "roles" (Reader.list Snowflake.read)
    <*> .patched "joined_at" Reader.string
    <*> .patched "deaf" Reader.bool
    <*> .patched "mute" Reader.bool

def read : Reader MemberUpdate := shape.read "MemberUpdate"

def render (u : MemberUpdate) : Json :=
  .ofPresent
    [("guild_id", some u.guildId.render),
      ("user", some u.user.render),
      ("nick", u.nick.render? .string),
      ("roles", u.roles.render? (.ofList Snowflake.render)),
      ("joined_at", u.joinedAt.render? .string),
      ("deaf", u.deaf.render? .bool),
      ("mute", u.mute.render? .bool)]

end MemberUpdate

structure MemberRemove where
  guildId : GuildId
  user : User
  deriving DecidableEq

namespace MemberRemove

def shape : Shape MemberRemove :=
  mk <$> .required "guild_id" Snowflake.read <*> .required "user" User.read

def read : Reader MemberRemove := shape.read "MemberRemove"

def render (r : MemberRemove) : Json :=
  .ofFields [("guild_id", r.guildId.render), ("user", r.user.render)]

end MemberRemove

structure MembersChunk where
  guildId : GuildId
  members : List Member
  presences : List PresenceUpdate
  index : UInt32
  count : UInt32
  deriving DecidableEq

namespace MembersChunk

def shape : Shape MembersChunk :=
  mk <$> .required "guild_id" Snowflake.read
    <*> .defaulted "members" [] (Reader.list Member.read)
    <*> .defaulted "presences" [] (Reader.list PresenceUpdate.read)
    <*> .defaulted "chunk_index" 0 Reader.u32
    <*> .defaulted "chunk_count" 0 Reader.u32

def read : Reader MembersChunk := shape.read "MemberChunk"

def render (c : MembersChunk) : Json :=
  .ofFields
    [("guild_id", c.guildId.render),
      ("members", .ofList Member.render c.members),
      ("presences", .ofList PresenceUpdate.render c.presences),
      ("chunk_index", .ofNat c.index.toNat),
      ("chunk_count", .ofNat c.count.toNat)]

end MembersChunk
end GuildFeed
