import Std.Data.ExtTreeMap
import Std.Data.ExtTreeSet
import GuildFeed.Record.Reader
import GuildFeed.Text.Numeral
import GuildFeed.Timestamp

namespace GuildFeed

inductive Snowflake.Kind
  | guild
  | channel
  | role
  | user
  | emoji
  deriving DecidableEq

structure Snowflake (kind : Snowflake.Kind) where
  word : UInt64
  deriving DecidableEq

abbrev GuildId := Snowflake .guild
abbrev ChannelId := Snowflake .channel
abbrev RoleId := Snowflake .role
abbrev UserId := Snowflake .user
abbrev EmojiId := Snowflake .emoji

/-- A word sent as a number or as a numeral; large ones are sent as text. -/
def Reader.word : Reader UInt64
  | .integer n =>
    if 0 ≤ n ∧ n < UInt64.size then .ok (.ofNat n.toNat)
    else .error (.wrongValue (.integer n) .identifier)
  | .string s =>
    match Text.word? s.toList with
    | some w => .ok w
    | none => .error (.wrongValue (.string s) .identifier)
  | v => refuse .identifier v

def Json.ofWord (w : UInt64) : Json := .string (.ofList (Text.numeral w.toNat))

namespace Snowflake
variable {kind : Kind}

instance : Ord (Snowflake kind) := ⟨compareOn word⟩

instance : Std.TransOrd (Snowflake kind) :=
  inferInstanceAs (Std.TransCmp (compareOn word))

instance : Std.LawfulEqOrd (Snowflake kind) where
  eq_of_compare {a b} h := by
    cases a
    cases b
    exact congrArg mk (Std.LawfulEqOrd.eq_of_compare h)

instance : Inhabited (Snowflake kind) := ⟨⟨0⟩⟩

def read : Reader (Snowflake kind) := fun v => (Reader.word v).map mk

def render (id : Snowflake kind) : Json := .ofWord id.word

def display (id : Snowflake kind) : String := .ofList (Text.numeral id.word.toNat)

def Kind.typeName : Kind → String
  | .guild => "GuildId"
  | .channel => "ChannelId"
  | .role => "RoleId"
  | .user => "UserId"
  | .emoji => "EmojiId"

def describe (id : Snowflake kind) : String :=
  kind.typeName ++ "(" ++ id.display ++ ")"

def epoch : Nat := 1420070400000

def timestamp? (id : Snowflake kind) : Option Timestamp :=
  Timestamp.ofMillis? ((id.word.toNat >>> 22) + epoch)

end Snowflake

structure MemberId where
  guild : GuildId
  user : UserId
  deriving DecidableEq

namespace MemberId

instance : Ord MemberId := ⟨compareLex (compareOn guild) (compareOn user)⟩

instance : Std.TransOrd MemberId :=
  inferInstanceAs (Std.TransCmp (compareLex (compareOn guild) (compareOn user)))

instance : Std.LawfulEqOrd MemberId where
  eq_of_compare {a b} h := by
    have h : compareLex (compareOn guild) (compareOn user) a b = .eq := h
    rw [compareLex_eq_eq] at h
    cases a
    cases b
    exact congr (congrArg mk (Std.LawfulEqOrd.eq_of_compare h.1))
      (Std.LawfulEqOrd.eq_of_compare h.2)

end MemberId
end GuildFeed
