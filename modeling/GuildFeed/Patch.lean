import GuildFeed.Record.Reader

namespace GuildFeed

inductive Patch (α : Type)
  | absent
  | null
  | value (a : α)
  deriving DecidableEq

namespace Patch
variable {α : Type}

def isAbsent : Patch α → Bool
  | absent => true
  | _ => false

def isNull : Patch α → Bool
  | null => true
  | _ => false

def value? : Patch α → Option α
  | value a => some a
  | _ => none

def applyNullable (p : Patch α) (old : Option α) : Option α :=
  match p with
  | absent => old
  | null => none
  | value a => some a

/-- The field after the patch, for a field that always has a value. -/
def apply (p : Patch α) (old : α) : α :=
  match p with
  | value a => a
  | _ => old

def changesNullable [DecidableEq α] (p : Patch α) (old : Option α) : Bool :=
  p.applyNullable old ≠ old

def changes [DecidableEq α] (p : Patch α) (old : α) : Bool :=
  p.apply old ≠ old

def ofOption : Option α → Patch α
  | none => null
  | some a => value a

def read (read : Reader α) : Reader (Patch α) := fun v =>
  (Reader.option read v).map ofOption

def render? (render : α → Json) : Patch α → Option Json
  | absent => none
  | null => some .null
  | value a => some (render a)

end Patch
end GuildFeed
