import GuildFeed.Snowflake

namespace GuildFeed

structure Permissions where
  bits : UInt64
  deriving DecidableEq

namespace Permissions

def names : List String :=
  ["CREATE_INVITE", "KICK_MEMBERS", "BAN_MEMBERS", "ADMINISTRATOR", "MANAGE_CHANNELS",
    "MANAGE_GUILD", "ADD_REACTIONS", "VIEW_AUDIT_LOG", "PRIORITY_SPEAKER", "STREAM",
    "VIEW_CHANNEL", "SEND_MESSAGES", "SEND_TTS_MESSAGES", "MANAGE_MESSAGES", "EMBED_LINKS",
    "ATTACH_FILES", "READ_MESSAGE_HISTORY", "MENTION_EVERYONE", "USE_EXTERNAL_EMOJIS",
    "VIEW_GUILD_INSIGHTS", "CONNECT", "SPEAK", "MUTE_MEMBERS", "DEAFEN_MEMBERS", "MOVE_MEMBERS",
    "USE_VAD", "CHANGE_NICKNAME", "MANAGE_NICKNAMES", "MANAGE_ROLES", "MANAGE_WEBHOOKS",
    "MANAGE_EMOJIS"]

def all : Permissions := ⟨.ofNat ((1 <<< names.length) - 1)⟩

def empty : Permissions := ⟨0⟩

def administrator : Permissions := ⟨8⟩

def contains (p q : Permissions) : Bool := p.bits &&& q.bits = q.bits

def isEmpty (p : Permissions) : Bool := p.bits = 0

def truncate (p : Permissions) : Permissions := ⟨p.bits &&& all.bits⟩

def unnamed (p : Permissions) : UInt64 := p.bits &&& ~~~ all.bits

def isKnown (p : Permissions) : Bool := p.unnamed = 0

def describe (p : Permissions) : String :=
  let named := names.zipIdx.filterMap fun f =>
    if p.bits.toNat.testBit f.2 then some f.1 else none
  let rest := if p.isKnown then [] else ["0x" ++ .ofList (Nat.toDigits 16 p.unnamed.toNat)]
  if p.isEmpty then "(empty)" else " | ".intercalate (named ++ rest)

def read : Reader Permissions := fun v => (Reader.word v).map mk

def render (p : Permissions) : Json := .ofWord p.bits

end Permissions
end GuildFeed
