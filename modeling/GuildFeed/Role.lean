import GuildFeed.Permissions
import GuildFeed.Record.Shape

namespace GuildFeed

structure Role where
  id : RoleId
  name : String
  permissions : Permissions
  position : Int64
  color : UInt32
  hoist : Bool
  managed : Bool
  mentionable : Bool
  deriving DecidableEq

namespace Role

def shape : Shape Role :=
  mk <$> .required "id" Snowflake.read
    <*> .defaulted "name" "" Reader.string
    <*> .defaulted "permissions" Permissions.empty Permissions.read
    <*> .defaulted "position" 0 Reader.i64
    <*> .defaulted "color" 0 Reader.u32
    <*> .defaulted "hoist" false Reader.bool
    <*> .defaulted "managed" false Reader.bool
    <*> .defaulted "mentionable" false Reader.bool

def read : Reader Role := shape.read "Role"

def render (r : Role) : Json :=
  .ofFields
    [("id", r.id.render),
      ("name", .string r.name),
      ("permissions", r.permissions.render),
      ("position", .integer r.position.toInt),
      ("color", .ofNat r.color.toNat),
      ("hoist", .bool r.hoist),
      ("managed", .bool r.managed),
      ("mentionable", .bool r.mentionable)]

end Role

structure GuildRole where
  guildId : GuildId
  role : Role
  deriving DecidableEq

namespace GuildRole

def shape : Shape GuildRole :=
  mk <$> .required "guild_id" Snowflake.read <*> .required "role" Role.read

def readCreate : Reader GuildRole := shape.read "RoleCreate"

def readUpdate : Reader GuildRole := shape.read "RoleUpdate"

def render (r : GuildRole) : Json :=
  .ofFields [("guild_id", r.guildId.render), ("role", r.role.render)]

end GuildRole

structure RoleDelete where
  guildId : GuildId
  roleId : RoleId
  deriving DecidableEq

namespace RoleDelete

def shape : Shape RoleDelete :=
  mk <$> .required "guild_id" Snowflake.read <*> .required "role_id" Snowflake.read

def read : Reader RoleDelete := shape.read "RoleDelete"

def render (r : RoleDelete) : Json :=
  .ofFields [("guild_id", r.guildId.render), ("role_id", r.roleId.render)]

end RoleDelete
end GuildFeed
