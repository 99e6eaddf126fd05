import GuildFeed.Snowflake

/-!
# Shelves

A shelf holds the entities of one sort: a table by key, and for each guild the ids that it lists.
The table answers reads of one entity, the lists say what goes when a guild goes.

An id is only listed under a guild that has a list, so nothing ever points at an unknown guild.
-/

namespace GuildFeed

class Listed (κ : Type) (ι : outParam Type) where
  key : GuildId → ι → κ
  id? : GuildId → κ → Option ι
  id?_eq_some_iff {g : GuildId} {k : κ} {i : ι} : id? g k = some i ↔ key g i = k

instance {kind : Snowflake.Kind} : Listed (Snowflake kind) (Snowflake kind) where
  key _ id := id
  id? _ k := some k
  id?_eq_some_iff := by simp [eq_comm]

instance : Listed MemberId UserId where
  key := MemberId.mk
  id? g k := if k.guild = g then some k.user else none
  id?_eq_some_iff {g k i} := by
    cases k
    simp only [MemberId.mk.injEq]
    split <;> simp_all [eq_comm]

structure Shelf (κ : Type) {ι : Type} [Ord κ] [Ord ι] [Listed κ ι] (α : Type) where
  table : Std.ExtTreeMap κ α
  lists : Std.ExtTreeMap GuildId (Std.ExtTreeSet ι)

namespace Shelf

variable {κ ι α : Type} [Ord κ] [Std.TransOrd κ] [Std.LawfulEqOrd κ]
  [Ord ι] [Std.TransOrd ι] [Std.LawfulEqOrd ι] [Listed κ ι]

instance [DecidableEq α] : DecidableEq (Shelf κ α) := fun s t =>
  decidable_of_iff (s.table = t.table ∧ s.lists = t.lists) (by cases s; cases t; simp)

def empty : Shelf κ α := ⟨∅, ∅⟩

def get? (s : Shelf κ α) (k : κ) : Option α := s.table[k]?

def ids (s : Shelf κ α) (g : GuildId) : Std.ExtTreeSet ι := (s.lists[g]?).getD ∅

def names (ids : Std.ExtTreeSet ι) (g : GuildId) (k : κ) : Bool :=
  match Listed.id? g k with
  | some i => ids.contains i
  | none => false

def isListed (s : Shelf κ α) (g : GuildId) (k : κ) : Bool := names (s.ids g) g k

def entities (s : Shelf κ α) (g : GuildId) : List α :=
  (s.ids g).toList.filterMap fun i => s.get? (Listed.key g i)

def ensure (s : Shelf κ α) (g : GuildId) : Shelf κ α :=
  { s with lists := s.lists.insertIfNew g ∅ }

def enlist (s : Shelf κ α) (owner : Option GuildId) (k : κ) : Shelf κ α :=
  match owner.bind fun g => (Listed.id? g k).map (g, ·) with
  | some (g, i) => { s with lists := s.lists.modify g (·.insert i) }
  | none => s

def unlist (s : Shelf κ α) (owner : Option GuildId) (k : κ) : Shelf κ α :=
  match owner.bind fun g => (Listed.id? g k).map (g, ·) with
  | some (g, i) => { s with lists := s.lists.modify g (·.erase i) }
  | none => s

def put (s : Shelf κ α) (owner : Option GuildId) (k : κ) (a : α) : Shelf κ α :=
  let s := s.enlist owner k
  { s with table := s.table.insert k a }

def take (s : Shelf κ α) (owner : Option GuildId) (k : κ) : Shelf κ α :=
  let s := s.unlist owner k
  { s with table := s.table.erase k }

def discard (s : Shelf κ α) (owner : Option GuildId) (k : κ) : Shelf κ α :=
  if s.table.contains k then s.take owner k else s

def pop (s : Shelf κ α) (owner : α → Option GuildId) (k : κ) : Option α × Shelf κ α :=
  match s.table[k]? with
  | some a => (some a, s.take (owner a) k)
  | none => (none, s)

def modify (s : Shelf κ α) (k : κ) (f : α → α) : Shelf κ α :=
  { s with table := s.table.modify k f }

def modifyListed (s : Shelf κ α) (g : GuildId) (f : α → α) : Shelf κ α :=
  { s with table := s.table.map fun k a => if s.isListed g k then f a else a }

/-- Makes `keep` the list of the guild and drops the entities that only the old list had. -/
def retain (s : Shelf κ α) (g : GuildId) (keep : Std.ExtTreeSet ι) : Shelf κ α where
  table := s.table.filter fun k _ => !s.isListed g k || names keep g k
  lists := s.lists.insert g keep

def close (s : Shelf κ α) (g : GuildId) : Shelf κ α where
  table := s.table.filter fun k _ => !s.isListed g k
  lists := s.lists.erase g

end Shelf
end GuildFeed
