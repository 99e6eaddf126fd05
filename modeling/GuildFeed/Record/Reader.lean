import GuildFeed.Record.Fault

namespace GuildFeed

abbrev Reader (α : Type) := Json → Except Fault α

namespace Reader

def refuse {α : Type} (wanted : Wanted) (v : Json) : Except Fault α :=
  .error (.wrongType (.of v) wanted)

def string : Reader String
  | .string s => .ok s
  | v => refuse .string v

def bool : Reader Bool
  | .bool b => .ok b
  | v => refuse .boolean v

def integer (wanted : Wanted) (lo hi : Int) : Reader Int
  | .integer n => if lo ≤ n ∧ n < hi then .ok n else .error (.wrongValue (.integer n) wanted)
  | v => refuse wanted v

def natural (bits : Nat) : Reader Nat := fun v =>
  (integer (.unsigned bits) 0 (1 <<< bits : Nat) v).map Int.toNat

def u8 : Reader UInt8 := fun v => (natural 8 v).map .ofNat
def u32 : Reader UInt32 := fun v => (natural 32 v).map .ofNat
def u64 : Reader UInt64 := fun v => (natural 64 v).map .ofNat
def i64 : Reader Int64 := fun v => (integer (.signed 64) (-0x8000000000000000) 0x8000000000000000 v).map .ofInt

def list {α : Type} (read : Reader α) : Reader (List α)
  | .array items => items.mapM read
  | v => refuse .sequence v

def option {α : Type} (read : Reader α) : Reader (Option α)
  | .null => .ok none
  | v => (read v).map some

end Reader
end GuildFeed
