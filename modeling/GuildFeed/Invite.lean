import GuildFeed.Record.Shape
import GuildFeed.Snowflake
import GuildFeed.Text.Blank

namespace GuildFeed

structure Invite where
  code : String
  phrase : Option String
  deriving DecidableEq

namespace Invite

def shape : Shape Invite :=
  mk <$> .required "code" Reader.string <*> .optional "xkcdpass" Reader.string

def read : Reader Invite := shape.read "Invite"

def render (i : Invite) : Json :=
  .ofFields [("code", .string i.code), ("xkcdpass", .ofOption .string i.phrase)]

def codeOf (link : List Char) : List Char :=
  Text.lastSegment '/' (Text.dropWhileEnd (· = '/') (Text.trim link))

/-- Takes a bare code or a link. What is empty or still has a colon is no code. -/
def ofLink? (link : String) : Option Invite :=
  let code := codeOf link.toList
  if code = [] ∨ ':' ∈ code then none else some ⟨.ofList code, none⟩

end Invite

structure InviteGuild where
  id : GuildId
  name : String
  deriving DecidableEq

namespace InviteGuild

def shape : Shape InviteGuild :=
  mk <$> .required "id" Snowflake.read <*> .required "name" Reader.string

def read : Reader InviteGuild := shape.read "InviteGuild"

def render (g : InviteGuild) : Json :=
  .ofFields [("id", g.id.render), ("name", .string g.name)]

end InviteGuild

structure InviteChannel where
  id : ChannelId
  name : Option String
  deriving DecidableEq

namespace InviteChannel

def shape : Shape InviteChannel :=
  mk <$> .required "id" Snowflake.read <*> .optional "name" Reader.string

def read : Reader InviteChannel := shape.read "InviteChannel"

def render (c : InviteChannel) : Json :=
  .ofFields [("id", c.id.render), ("name", .ofOption .string c.name)]

end InviteChannel

structure InviteDetails where
  code : String
  phrase : Option String
  guild : InviteGuild
  channel : InviteChannel
  deriving DecidableEq

namespace InviteDetails

def shape : Shape InviteDetails :=
  mk <$> .required "code" Reader.string
    <*> .optional "xkcdpass" Reader.string
    <*> .required "guild" InviteGuild.read
    <*> .required "channel" InviteChannel.read

def read : Reader InviteDetails := shape.read "InviteDetails"

def render (d : InviteDetails) : Json :=
  .ofFields
    [("code", .string d.code),
      ("xkcdpass", .ofOption .string d.phrase),
      ("guild", d.guild.render),
      ("channel", d.channel.render)]

def invite (d : InviteDetails) : Invite := ⟨d.code, d.phrase⟩

end InviteDetails
end GuildFeed
