import GuildFeed.Event

namespace GuildFeed

structure Availability where
  cached : Std.ExtTreeSet GuildId
  unavailable : Std.ExtTreeSet GuildId
  deriving DecidableEq

namespace Availability

def empty : Availability := ⟨∅, ∅⟩

def arrive (a : Availability) (g : GuildId) : Availability := ⟨a.cached.insert g, a.unavailable.erase g⟩

def fail (a : Availability) (g : GuildId) : Availability := ⟨a.cached.erase g, a.unavailable.insert g⟩

def depart (a : Availability) (g : GuildId) : Availability := ⟨a.cached.erase g, a.unavailable.erase g⟩

def hear (a : Availability) : Event → Availability
  | .ready _ guilds _ => guilds.foldl fail a
  | .guildAvailable guild _ => a.arrive guild.id
  | .guildUnavailable id true _ => a.fail id
  | .guildUnavailable id false _ => a.depart id
  | _ => a

variable {a : Availability} {g h : GuildId}

@[simp] theorem mem_cached_arrive : h ∈ (a.arrive g).cached ↔ g = h ∨ h ∈ a.cached := by
  simp [arrive, Std.ExtTreeSet.mem_insert]

@[simp] theorem mem_unavailable_arrive : h ∈ (a.arrive g).unavailable ↔ g ≠ h ∧ h ∈ a.unavailable := by
  simp [arrive, Std.ExtTreeSet.mem_erase]

@[simp] theorem mem_cached_fail : h ∈ (a.fail g).cached ↔ g ≠ h ∧ h ∈ a.cached := by
  simp [fail, Std.ExtTreeSet.mem_erase]

@[simp] theorem mem_unavailable_fail : h ∈ (a.fail g).unavailable ↔ g = h ∨ h ∈ a.unavailable := by
  simp [fail, Std.ExtTreeSet.mem_insert]

@[simp] theorem mem_cached_depart : h ∈ (a.depart g).cached ↔ g ≠ h ∧ h ∈ a.cached := by
  simp [depart, Std.ExtTreeSet.mem_erase]

@[simp] theorem mem_unavailable_depart : h ∈ (a.depart g).unavailable ↔ g ≠ h ∧ h ∈ a.unavailable := by
  simp [depart, Std.ExtTreeSet.mem_erase]

theorem mem_unavailable_foldl_fail (gs : List GuildId) :
    h ∈ (gs.foldl fail a).unavailable ↔ h ∈ gs ∨ h ∈ a.unavailable := by
  induction gs generalizing a with
  | nil => simp
  | cons g gs ih => simp [ih, eq_comm, or_assoc, or_left_comm]

theorem mem_foldl_erase {f : Availability → GuildId → Availability} {set : Availability → Std.ExtTreeSet GuildId}
    (step : ∀ a g, h ∈ set (f a g) ↔ g ≠ h ∧ h ∈ set a) (gs : List GuildId) :
    h ∈ set (gs.foldl f a) ↔ h ∉ gs ∧ h ∈ set a := by
  induction gs generalizing a with
  | nil => simp
  | cons g gs ih => simp [ih, step, eq_comm, and_assoc, and_left_comm]

theorem mem_cached_foldl_fail (gs : List GuildId) : h ∈ (gs.foldl fail a).cached ↔ h ∉ gs ∧ h ∈ a.cached :=
  mem_foldl_erase (fun _ _ => mem_cached_fail) gs

theorem mem_cached_foldl_depart (gs : List GuildId) :
    h ∈ (gs.foldl depart a).cached ↔ h ∉ gs ∧ h ∈ a.cached :=
  mem_foldl_erase (fun _ _ => mem_cached_depart) gs

theorem mem_unavailable_foldl_depart (gs : List GuildId) :
    h ∈ (gs.foldl depart a).unavailable ↔ h ∉ gs ∧ h ∈ a.unavailable :=
  mem_foldl_erase (fun _ _ => mem_unavailable_depart) gs

end Availability

def Store.availability (s : Store) : Availability := ⟨.ofList s.guilds.keys, s.unavailable⟩

end GuildFeed
