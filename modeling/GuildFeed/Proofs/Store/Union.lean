import Mathlib.Algebra.BigOperators.Ring.Finset
import Mathlib.Data.Fintype.Basic
import GuildFeed.Proofs.Store.Gauges
import GuildFeed.Proofs.Store.Scope

namespace GuildFeed

variable {ι : Type}

theorem exists_part {P : ι → Prop} {whole : Prop} {part : ι → Prop} (inside : ∀ i, P i → (whole ↔ part i))
    (outside : (∀ i, ¬ P i) → ¬ whole) (alone : ∀ i, ¬ P i → ¬ part i) : whole ↔ ∃ i, part i := by
  constructor
  · intro holds
    by_contra none
    refine outside (fun i charge => none ⟨i, (inside i charge).1 holds⟩) holds
  · rintro ⟨i, holds⟩
    by_cases charge : P i
    · exact (inside i charge).2 holds
    · exact absurd holds (alone i charge)

namespace Shelf

variable {κ ι' α : Type} [Ord κ] [Std.TransOrd κ] [Std.LawfulEqOrd κ] [Ord ι'] [Std.TransOrd ι']
  [Std.LawfulEqOrd ι'] [Listed κ ι']

structure IsUnion (s : Shelf κ α) (parts : ι → Shelf κ α) : Prop where
  entries : ∀ k a, s.get? k = some a ↔ ∃ i, (parts i).get? k = some a
  lists : ∀ (g : GuildId) ids, s.lists[g]? = some ids ↔ ∃ i, (parts i).lists[g]? = some ids

theorem isUnion_of_agree {guilds : ι → GuildId → Prop} {keys : ι → κ → Prop} {s : Shelf κ α}
    {parts : ι → Shelf κ α} (inside : ∀ i, s.Agree (guilds i) (keys i) (parts i))
    (outside : s.Agree (fun g => ∀ i, ¬ guilds i g) (fun k => ∀ i, ¬ keys i k) .empty)
    (alone : ∀ i, (parts i).Agree (¬ guilds i ·) (¬ keys i ·) .empty) : s.IsUnion parts where
  entries k a := by
    apply exists_part (P := (keys · k))
    · intro i charge
      rw [(inside i).get? k charge]
    · intro free
      simp [outside.get? k free]
    · intro i other
      simp [(alone i).get? k other]
  lists g ids := by
    apply exists_part (P := (guilds · g))
    · intro i charge
      rw [(inside i).lists g charge]
    · intro free
      simp [outside.lists g free, empty]
    · intro i other
      simp [(alone i).lists g other, empty]

end Shelf

namespace Store

structure IsUnion [Fintype ι] (s : Store) (parts : ι → Store) : Prop where
  guilds : ∀ g e, s.guild? g = some e ↔ ∃ i, (parts i).guild? g = some e
  channels : s.channels.IsUnion fun i => (parts i).channels
  roles : s.roles.IsUnion fun i => (parts i).roles
  emojis : s.emojis.IsUnion fun i => (parts i).emojis
  members : s.members.IsUnion fun i => (parts i).members
  presences : s.presences.IsUnion fun i => (parts i).presences
  voiceStates : s.voiceStates.IsUnion fun i => (parts i).voiceStates
  unavailable : ∀ g, s.isUnavailable g = true ↔ ∃ i, (parts i).isUnavailable g = true
  guildGauge : s.guildGauge = ∑ i, (parts i).guildGauge
  memberGauge : s.memberGauge = ∑ i, (parts i).memberGauge

section
variable [Fintype ι] {whole : Std.ExtTreeMap GuildId GuildEntry} {part : ι → Std.ExtTreeMap GuildId GuildEntry}

theorem sum_toList (union : ∀ (g : GuildId) (e : GuildEntry), whole[g]? = some e ↔ ∃ i, (part i)[g]? = some e)
    (apart : ∀ i j (g : GuildId) e e', (part i)[g]? = some e → (part j)[g]? = some e' → i = j) (f : GuildId × GuildEntry → Nat) :
    (whole.toList.map f).sum = ∑ i, ((part i).toList.map f).sum := by
  have disjoint : Set.PairwiseDisjoint (Finset.univ : Finset ι) fun i => (part i).toList.toFinset := by
    intro i _ j _ other
    refine Finset.disjoint_left.2 fun ⟨g, e⟩ mem mem' => other (apart i j g e e ?_ ?_)
    · exact Std.ExtTreeMap.mem_toList_iff_getElem?_eq_some.1 (List.mem_toFinset.1 mem)
    · exact Std.ExtTreeMap.mem_toList_iff_getElem?_eq_some.1 (List.mem_toFinset.1 mem')
  have pieces : whole.toList.toFinset = Finset.univ.biUnion fun i => (part i).toList.toFinset := by
    ext ⟨g, e⟩
    simp [Std.ExtTreeMap.mem_toList_iff_getElem?_eq_some, union]
  calc (whole.toList.map f).sum
    _ = ∑ p ∈ whole.toList.toFinset, f p := (List.sum_toFinset f (Table.nodup_toList whole)).symm
    _ = ∑ i, ∑ p ∈ (part i).toList.toFinset, f p := by rw [pieces, Finset.sum_biUnion disjoint]
    _ = ∑ i, ((part i).toList.map f).sum :=
      Finset.sum_congr rfl fun i _ => List.sum_toFinset f (Table.nodup_toList (part i))

theorem size_eq_sum (guilds : Std.ExtTreeMap GuildId GuildEntry) :
    guilds.size = (guilds.toList.map fun _ => 1).sum := by
  simp [Std.ExtTreeMap.length_toList]

end

theorem guild?_empty (g : GuildId) : Store.empty.guild? g = none := by simp [guild?, empty]

theorem isUnavailable_empty (g : GuildId) : Store.empty.isUnavailable g = false := by simp [isUnavailable, empty]

section
variable {scopes : ι → EntityKey → Prop} {s : Store} {parts : ι → Store}

theorem guild?_union (inside : ∀ i, s.Agree (scopes i) (parts i))
    (outside : s.Agree (fun k => ∀ i, ¬ scopes i k) .empty)
    (alone : ∀ i, (parts i).Agree (¬ scopes i ·) .empty) (g : GuildId) (e : GuildEntry) :
    s.guild? g = some e ↔ ∃ i, (parts i).guild? g = some e := by
  apply exists_part (P := (scopes · (.guild g)))
  · intro i charge
    rw [(inside i).guild g charge]
  · intro free
    rw [outside.guild g free, guild?_empty]
    exact nofun
  · intro i other
    rw [(alone i).guild g other, guild?_empty]
    exact nofun

theorem isUnavailable_union (inside : ∀ i, s.Agree (scopes i) (parts i))
    (outside : s.Agree (fun k => ∀ i, ¬ scopes i k) .empty)
    (alone : ∀ i, (parts i).Agree (¬ scopes i ·) .empty) (g : GuildId) :
    s.isUnavailable g = true ↔ ∃ i, (parts i).isUnavailable g = true := by
  apply exists_part (P := (scopes · (.guild g)))
  · intro i charge
    rw [(inside i).unavailable g charge]
  · intro free
    rw [outside.unavailable g free, isUnavailable_empty]
    exact nofun
  · intro i other
    rw [(alone i).unavailable g other, isUnavailable_empty]
    exact nofun

theorem isUnion_of_agree [Fintype ι] (reachable : s.Reachable) (reachables : ∀ i, (parts i).Reachable)
    (apart : ∀ i j k, scopes i k → scopes j k → i = j) (inside : ∀ i, s.Agree (scopes i) (parts i))
    (outside : s.Agree (fun k => ∀ i, ¬ scopes i k) .empty)
    (alone : ∀ i, (parts i).Agree (¬ scopes i ·) .empty) : s.IsUnion parts := by
  have guilds := guild?_union inside outside alone
  have within (i : ι) (g : GuildId) (e : GuildEntry) (found : (parts i).guild? g = some e) : scopes i (.guild g) := by
    by_contra other
    rw [(alone i).guild g other, guild?_empty] at found
    cases found
  have distinct (i j : ι) (g : GuildId) (e e' : GuildEntry) (found : (parts i).guild? g = some e)
      (found' : (parts j).guild? g = some e') : i = j :=
    apart i j _ (within i g e found) (within j g e' found')
  refine
    { guilds
      channels := Shelf.isUnion_of_agree (fun i => (inside i).channels) outside.channels fun i => (alone i).channels
      roles := Shelf.isUnion_of_agree (fun i => (inside i).roles) outside.roles fun i => (alone i).roles
      emojis := Shelf.isUnion_of_agree (fun i => (inside i).emojis) outside.emojis fun i => (alone i).emojis
      members := Shelf.isUnion_of_agree (fun i => (inside i).members) outside.members fun i => (alone i).members
      presences :=
        Shelf.isUnion_of_agree (fun i => (inside i).presences) outside.presences fun i => (alone i).presences
      voiceStates :=
        Shelf.isUnion_of_agree (fun i => (inside i).voiceStates) outside.voiceStates fun i => (alone i).voiceStates
      unavailable := isUnavailable_union inside outside alone
      guildGauge := ?_
      memberGauge := ?_ }
  · have count (i : ι) : (parts i).guildGauge = ((parts i).guilds.size : Int) := (reachables i).balanced.guilds
    have total : s.guildGauge = s.guilds.size := reachable.balanced.guilds
    have sums := sum_toList guilds distinct fun _ => 1
    simp only [← size_eq_sum] at sums
    rw [total, sums, Nat.cast_sum]
    exact Finset.sum_congr rfl fun i _ => (count i).symm
  · have count (i : ι) : (parts i).memberGauge = (reported (parts i).guilds : Int) := (reachables i).balanced.members
    have total : s.memberGauge = reported s.guilds := reachable.balanced.members
    have sums : reported s.guilds = ∑ i, reported (parts i).guilds := sum_toList guilds distinct (·.2.memberCount)
    rw [total, sums, Nat.cast_sum]
    exact Finset.sum_congr rfl fun i _ => (count i).symm

end
end Store
end GuildFeed
