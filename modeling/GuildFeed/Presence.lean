import GuildFeed.Activity
import GuildFeed.User

namespace GuildFeed

inductive Status
  | online
  | idle
  | doNotDisturb
  /-- Others see an invisible user as offline, so both words mean this. -/
  | invisible
  deriving DecidableEq

namespace Status

def word : Status → String
  | online => "online"
  | idle => "idle"
  | doNotDisturb => "dnd"
  | invisible => "invisible"

def words : List String := ["online", "idle", "dnd", "invisible", "offline"]

def ofWord (s : String) : Except Fault Status :=
  if s = "online" then .ok online
  else if s = "idle" then .ok idle
  else if s = "dnd" then .ok doNotDisturb
  else if s = "invisible" ∨ s = "offline" then .ok invisible
  else .error (.unknownVariant s words)

/-- Reads a word, or an object with the word as its one key and `null` under it. -/
def read : Reader Status
  | .string s => ofWord s
  | .object [(s, v)] => do
    let status ← ofWord s
    match v with
    | .null => pure status
    | v => Reader.refuse .unit v
  | .object _ => .error (.wrongValue .map .singleKey)
  | v => Reader.refuse .variant v

def render (s : Status) : Json := .string s.word

end Status

structure Presence where
  status : Status
  activity : Option Activity
  deriving DecidableEq

structure Game where
  name : String
  kind : ActivityKind
  url : Option String
  deriving DecidableEq

namespace Game

def shape : Shape Game :=
  mk <$> .required "name" Reader.string
    <*> .required "type" ActivityKind.read
    <*> .optional "url" Reader.string

def read : Reader Game := shape.read "Game"

def render (g : Game) : Json :=
  .ofPresent
    [("name", some (.string g.name)), ("type", some g.kind.render), ("url", g.url.map .string)]

end Game

structure StatusUpdate where
  game : Option Game
  status : Status
  deriving DecidableEq

namespace StatusUpdate

def shape : Shape StatusUpdate :=
  mk <$> .optional "game" Game.read <*> .required "status" Status.read

def read : Reader StatusUpdate := shape.read "StatusUpdate"

def render (u : StatusUpdate) : Json :=
  .ofPresent [("game", u.game.map Game.render), ("status", some u.status.render)]

end StatusUpdate

namespace Presence

def start : Presence := ⟨.invisible, none⟩

def shape : Shape Presence :=
  mk <$> .required "status" Status.read <*> .named "activity" Activity.read

def read : Reader Presence := shape.read "Presence"

def render (p : Presence) : Json :=
  .ofFields
    [("status", p.status.render), ("activity", .ofOption Activity.render p.activity)]

def merge (p : Presence) (status : Patch Status) (activity : Patch Activity) : Presence where
  status := status.apply p.status
  activity := activity.applyNullable p.activity

def statusUpdate (p : Presence) : StatusUpdate where
  game := p.activity.map fun a => ⟨a.name, a.kind, a.streamingUrl?⟩
  status := p.status

end Presence

structure PresenceUpdate where
  user : PartialUser
  guildId : Option GuildId
  status : Patch Status
  activity : Patch Activity
  deriving DecidableEq

namespace PresenceUpdate

def shape : Shape PresenceUpdate :=
  mk <$> .required "user" PartialUser.read
    <*> .optional "guild_id" Snowflake.read
    <*> .patched "status" Status.read
    <*> .patchedEither "activity" "game" Activity.read

def read : Reader PresenceUpdate := shape.read "PresenceUpdate"

def render (u : PresenceUpdate) : Json :=
  .ofPresent
    [("user", some u.user.render),
      ("guild_id", some (.ofOption Snowflake.render u.guildId)),
      ("status", u.status.render? Status.render),
      ("activity", u.activity.render? Activity.render)]

end PresenceUpdate
end GuildFeed
