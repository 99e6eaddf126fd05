import Mathlib.Data.Finset.Card
import GuildFeed.Proofs.Store.Availability
import GuildFeed.Proofs.Store.Gauges
import GuildFeed.Proofs.Store.PartialUpdate
import GuildFeed.Proofs.Store.Recovery

namespace GuildFeed

/-! ## Who is a member, and who has been seen -/

namespace Dispatch

def turn (members : Finset UserId) : Dispatch → Finset UserId
  | memberAdd a => insert a.member.user.id members
  | memberRemove r => members.erase r.user.id
  | _ => members

def see (seen : Finset UserId) : Dispatch → Finset UserId
  | memberAdd a => insert a.member.user.id seen
  | memberRemove r => seen.erase r.user.id
  | memberUpdate u => insert u.user.id seen
  | membersChunk c => seen ∪ (c.members.map (·.user.id)).toFinset
  | _ => seen

def leavesUnseen (seen : Finset UserId) : Dispatch → Bool
  | memberRemove r => r.user.id ∉ seen
  | _ => false

/-- A dispatch about members of a guild, true to who they are. -/
def FaithfulTo (g : GuildId) (members : Finset UserId) : Dispatch → Prop
  | memberAdd a => a.guildId = g ∧ a.member.user.id ∉ members
  | memberRemove r => r.guildId = g ∧ r.user.id ∈ members
  | memberUpdate u => u.guildId = g ∧ u.user.id ∈ members
  | membersChunk c => c.guildId = g ∧ ∀ m ∈ c.members, m.user.id ∈ members
  | _ => False

def Faithful (g : GuildId) : Finset UserId → List Dispatch → Prop
  | _, [] => True
  | members, d :: ds => d.FaithfulTo g members ∧ Faithful g (d.turn members) ds

def unseenLeavers (seen : Finset UserId) : List Dispatch → Nat
  | [] => 0
  | d :: ds => (d.leavesUnseen seen).toNat + unseenLeavers (d.see seen) ds

variable {g : GuildId} {members seen : Finset UserId} {d : Dispatch}

theorem faithful_append {as bs : List Dispatch} :
    Faithful g members (as ++ bs) ↔ Faithful g members as ∧ Faithful g (as.foldl turn members) bs := by
  induction as generalizing members with
  | nil => simp [Faithful]
  | cons d as ih => simp [Faithful, ih, and_assoc]

theorem unseenLeavers_append (seen : Finset UserId) (as bs : List Dispatch) :
    unseenLeavers seen (as ++ bs) = unseenLeavers seen as + unseenLeavers (as.foldl see seen) bs := by
  induction as generalizing seen with
  | nil => simp [unseenLeavers]
  | cons d as ih => simp [unseenLeavers, ih, Nat.add_assoc]

theorem leavesUnseen_eq_true : d.leavesUnseen seen = true ↔ ∃ r, d = .memberRemove r ∧ r.user.id ∉ seen := by
  cases d <;> simp [leavesUnseen]

theorem unseenLeavers_eq_zero {ds : List Dispatch} :
    unseenLeavers seen ds = 0 ↔ ∀ before r after, ds = before ++ .memberRemove r :: after →
      r.user.id ∈ before.foldl see seen := by
  constructor
  · rintro none before r after rfl
    rw [unseenLeavers_append, unseenLeavers] at none
    by_contra unseen
    have leaver : leavesUnseen (before.foldl see seen) (.memberRemove r) = true := decide_eq_true unseen
    simp [leaver] at none
  · intro known
    induction ds generalizing seen with
    | nil => rfl
    | cons d ds ih =>
      have first : d.leavesUnseen seen = false := by
        rw [Bool.eq_false_iff, ne_eq, leavesUnseen_eq_true]
        rintro ⟨r, rfl, unseen⟩
        exact unseen (known [] r ds rfl)
      rw [unseenLeavers, first, ih fun before r after split => known (d :: before) r after (by rw [split]; rfl)]
      rfl

theorem see_subset_turn (faithful : d.FaithfulTo g members) (known : seen ⊆ members) : d.see seen ⊆ d.turn members := by
  cases d with
  | memberAdd a => exact Finset.insert_subset_insert _ known
  | memberRemove r => exact Finset.erase_subset_erase _ known
  | memberUpdate u => exact Finset.insert_subset faithful.2 known
  | membersChunk c =>
    refine Finset.union_subset known fun u listed => ?_
    obtain ⟨m, mem, rfl⟩ := List.mem_map.1 (List.mem_toFinset.1 listed)
    exact faithful.2 m mem
  | _ => exact known

end Dispatch

namespace Command

def reported : Command → Nat
  | dispatch (.guildCreate g) => (GuildEntry.ofGuild g).memberCount
  | upsert (.guild e) => e.memberCount
  | _ => 0

def isJoin : Command → Bool
  | dispatch (.memberAdd _) => true
  | _ => false

end Command

namespace Store

variable {s t : Store} {e : Event} {g : GuildId} {members seen : Finset UserId} {missed : Nat} {d : Dispatch}

/-! ## How large a count can get -/

theorem add_drift_le (s : Store) (c : Command) (g : GuildId) :
    (s.memberCount g : Int) + s.drift c g ≤ max (s.memberCount g + c.isJoin.toNat) c.reported := by
  unfold drift
  split
  -- all but the four commands that can move a count
  case h_5 => omega
  all_goals
    simp only [Command.isJoin, Command.reported, Bool.toNat_true, Bool.toNat_false]
    split <;> omega

theorem memberCount_step_le (own : s.Ownership) (c : Command) (g : GuildId) :
    (s.step c).memberCount g ≤ max (s.memberCount g + c.isJoin.toNat) c.reported := by
  by_cases cached : g ∈ (s.step c).guilds
  · have moved := (recounts_step own c).memberCount cached
    have bound := s.add_drift_le c g
    omega
  · have absent : (s.step c).guild? g = none := Std.ExtTreeMap.getElem?_eq_none cached
    simp [memberCount, absent]

theorem memberCount_foldl_le (own : s.Ownership) {cs : List Command} {bound : Nat}
    (reported : ∀ c ∈ cs, c.reported ≤ bound) (g : GuildId) :
    (cs.foldl step s).memberCount g ≤ max (s.memberCount g) bound + cs.countP Command.isJoin := by
  induction cs generalizing s with
  | nil => simp
  | cons c cs ih =>
    have first := memberCount_step_le own c g
    have given := reported c List.mem_cons_self
    have rest := ih (own.step c) fun d mem => reported d (List.mem_cons_of_mem c mem)
    have joined : (if c.isJoin = true then 1 else 0) = c.isJoin.toNat := by cases c.isJoin <;> rfl
    rw [List.foldl_cons, List.countP_cons, joined]
    omega

/-- A count fits a word as long as the sizes reported and the joins after them do together. -/
theorem memberCount_run_lt {cs : List Command} {bound : Nat} (reported : ∀ c ∈ cs, c.reported ≤ bound)
    (fits : bound + cs.countP Command.isJoin < UInt64.size) (g : GuildId) : (run cs).memberCount g < UInt64.size := by
  have most := memberCount_foldl_le Ownership.empty reported g
  have start : Store.empty.memberCount g = 0 := by simp [memberCount, guild?, empty]
  rw [start, Nat.zero_max] at most
  exact Nat.lt_of_le_of_lt most fits

/-! ## One dispatch -/

structure Headcount (s : Store) (g : GuildId) (members seen : Finset UserId) (missed : Nat) : Prop where
  cached : g ∈ s.guilds
  count : s.memberCount g = members.card + missed
  known : seen ⊆ members
  seen : ∀ u, (s.members.get? ⟨g, u⟩).isSome = true ↔ u ∈ seen

theorem member?_onMemberAdd (own : s.Ownership) {a : MemberAdd} (h : s.onMemberAdd a = .ok (t, e)) (id : MemberId) :
    t.members.get? id =
      if (⟨a.guildId, a.member.user.id⟩ : MemberId) = id then some (.ofMember a.member a.guildId)
      else s.members.get? id := by
  obtain ⟨-, -, rfl⟩ := onMemberAdd_ok.1 h
  have put : (s.cacheMember (.ofMember a.member a.guildId)).members.get? id =
      if (⟨a.guildId, a.member.user.id⟩ : MemberId) = id then some (.ofMember a.member a.guildId)
      else s.members.get? id := by
    rw [cacheMember_eq own.members]
    exact Shelf.get?_put ..
  split
  · exact put
  · rw [members_countJoin]
    exact put

theorem member?_of_faithful (own : s.Ownership) (faithful : d.FaithfulTo g members) (h : s.update d = .ok (t, e))
    (before : ∀ u, (s.members.get? ⟨g, u⟩).isSome = true ↔ u ∈ seen) (u : UserId) :
    (t.members.get? ⟨g, u⟩).isSome = true ↔ u ∈ d.see seen := by
  have own' := own.update h
  cases d with
  | memberAdd a =>
    obtain ⟨rfl, -⟩ := faithful
    rw [member?_onMemberAdd own h, Dispatch.see, Finset.mem_insert, ← before]
    by_cases same : u = a.member.user.id
    · simp [same]
    · simp [same, Ne.symm same]
  | memberRemove r =>
    obtain ⟨rfl, -⟩ := faithful
    have changed : (s.onMemberRemove r).1 = t := congrArg Prod.fst (Except.ok.inj h)
    rw [← changed, members_onMemberRemove, Shelf.get?_discard, Dispatch.see, Finset.mem_erase, ← before]
    by_cases same : u = r.user.id
    · simp [same]
    · simp [same, Ne.symm same]
  | memberUpdate v =>
    obtain ⟨rfl, -⟩ := faithful
    obtain ⟨-, rfl⟩ := (memberUpdate_ok own).1 ⟨e, h⟩
    rw [putMember, Shelf.get?_put, id_after_member own, Dispatch.see, Finset.mem_insert, ← before]
    by_cases same : u = v.user.id
    · simp [same, MemberUpdate.id]
    · simp [same, Ne.symm same, MemberUpdate.id]
  | membersChunk c =>
    obtain ⟨rfl, -⟩ := faithful
    have cached : c.guildId ∈ s.guilds := (onMembersChunk_ok.1 h).1
    obtain ⟨e', taken⟩ := onMembersChunk_eq own cached
    obtain ⟨rfl, -⟩ := Prod.mk.inj (Except.ok.inj (h.symm.trans taken))
    rw [← own'.mem_ids_members, ← Shelf.isListed_key, takeChunk,
      Shelf.isListed_foldl_amend ((own.members.mem_lists _).2 cached), Shelf.isListed_key, own.mem_ids_members,
      before, Dispatch.see, Finset.mem_union, List.mem_toFinset, List.mem_map]
    simp [Listed.key]
  | _ => exact faithful.elim

theorem accepted_of_faithful (own : s.Ownership) (cached : g ∈ s.guilds) (faithful : d.FaithfulTo g members) :
    ∃ t e, s.update d = .ok (t, e) := by
  cases d with
  | memberAdd a =>
    obtain ⟨rfl, -⟩ := faithful
    exact ⟨_, _, onMemberAdd_ok.2 ⟨cached, rfl, rfl⟩⟩
  | memberRemove r => exact ⟨_, _, rfl⟩
  | memberUpdate v =>
    obtain ⟨rfl, -⟩ := faithful
    exact ⟨_, (memberUpdate_ok own).2 ⟨cached, rfl⟩⟩
  | membersChunk c =>
    obtain ⟨rfl, -⟩ := faithful
    exact ⟨_, onMembersChunk_eq own cached⟩
  | _ => exact faithful.elim

namespace Headcount

theorem drift_eq (heads : s.Headcount g members seen missed) (faithful : d.FaithfulTo g members) :
    (members.card : Int) + s.drift (.dispatch d) g = (d.turn members).card + (d.leavesUnseen seen).toNat := by
  have unseen (u : UserId) : s.members.get? ⟨g, u⟩ = none ↔ u ∉ seen := by
    rw [← heads.seen, Bool.not_eq_true, Option.isSome_eq_false_iff, Option.isNone_iff_eq_none]
  cases d with
  | memberAdd a =>
    obtain ⟨rfl, new⟩ := faithful
    have first : s.members.get? ⟨a.guildId, a.member.user.id⟩ = none :=
      (unseen _).2 fun mem => new (heads.known mem)
    simp [drift, first, Dispatch.turn, Dispatch.leavesUnseen, new]
  | memberRemove r =>
    obtain ⟨rfl, mem⟩ := faithful
    have some : 0 < members.card := Finset.card_pos.2 ⟨_, mem⟩
    have counted : 0 < s.memberCount r.guildId := by rw [heads.count]; omega
    rw [Dispatch.turn, Finset.card_erase_of_mem mem, Dispatch.leavesUnseen]
    by_cases known : r.user.id ∈ seen
    · have found := (unseen r.user.id).not.2 (not_not.2 known)
      simp only [drift, found, ne_eq, not_false_eq_true, counted, and_self, if_true, known, not_true, decide_false]
      simp
      omega
    · have missing := (unseen r.user.id).2 known
      simp [drift, missing, known]
      omega
  | memberUpdate v => simp [drift, Dispatch.turn, Dispatch.leavesUnseen]
  | membersChunk c => simp [drift, Dispatch.turn, Dispatch.leavesUnseen]
  | _ => exact faithful.elim

theorem update (heads : s.Headcount g members seen missed) (own : s.Ownership) (faithful : d.FaithfulTo g members)
    (h : s.update d = .ok (t, e)) :
    t.Headcount g (d.turn members) (d.see seen) (missed + (d.leavesUnseen seen).toNat) := by
  have cached : g ∈ t.guilds := by
    have still : t.availability = s.availability := by
      rw [availability_update own h]
      cases d <;> first | rfl | exact faithful.elim
    rw [← mem_cached_availability, still]
    exact mem_cached_availability.2 heads.cached
  have moved := (recounts_update own h).memberCount cached
  have drift := heads.drift_eq faithful
  have before := heads.count
  exact
    { cached
      count := by omega
      known := Dispatch.see_subset_turn faithful heads.known
      seen := member?_of_faithful own faithful h heads.seen }

/-! ## A run -/

theorem follow (heads : s.Headcount g members seen missed) (own : s.Ownership) {ds : List Dispatch}
    (faithful : Dispatch.Faithful g members ds) :
    s.accepted ds = ds ∧ (s.follow ds).Headcount g (ds.foldl Dispatch.turn members) (ds.foldl Dispatch.see seen)
      (missed + Dispatch.unseenLeavers seen ds) := by
  induction ds generalizing s members seen missed with
  | nil => exact ⟨rfl, heads⟩
  | cons d ds ih =>
    obtain ⟨t, e, taken⟩ := accepted_of_faithful own heads.cached faithful.1
    obtain ⟨accepted, after⟩ := ih (heads.update own faithful.1 taken) (own.update taken) faithful.2
    rw [accepted_cons_ok taken, follow_cons_ok taken, accepted]
    rw [Nat.add_assoc] at after
    exact ⟨rfl, after⟩

end Headcount

theorem headcount_putSnapshot (own : s.Ownership) {g : Guild} {n : UInt64} (reported : g.memberCount = some n)
    (right : n.toNat = members.card) (listed : ∀ m ∈ g.members, m.user.id ∈ members) :
    (s.putSnapshot g).Headcount g.id members (g.members.map (·.user.id)).toFinset 0 where
  cached := mem_guilds_of_guild? (own.guild?_putSnapshot g)
  count := by
    rw [memberCount, own.guild?_putSnapshot]
    simp [Guild.holdings, reported, right]
  known u named := by
    obtain ⟨m, mem, rfl⟩ := List.mem_map.1 (List.mem_toFinset.1 named)
    exact listed m mem
  seen u := by
    rw [← (own.putSnapshot g).mem_ids_members, own.ids_members_putSnapshot]
    simp [Std.ExtTreeSet.mem_ofList]

/-- After the snapshot of a guild that reports its true size and dispatches that are true to who its
members are, the count is that of the members and of those who left unseen. It was right all along
if and only if nobody did. -/
theorem Reachable.headcount (reachable : s.Reachable) {g : Guild} (available : g.unavailable = false) {n : UInt64}
    (reported : g.memberCount = some n) (right : n.toNat = members.card)
    (listed : ∀ m ∈ g.members, m.user.id ∈ members) {ds : List Dispatch}
    (faithful : Dispatch.Faithful g.id members ds) :
    let first := (g.members.map (·.user.id)).toFinset
    let count (ds : List Dispatch) := (s.follow (.guildCreate g :: ds)).memberCount g.id
    let size (ds : List Dispatch) := (ds.foldl Dispatch.turn members).card
    s.accepted (.guildCreate g :: ds) = .guildCreate g :: ds ∧
      count ds = size ds + Dispatch.unseenLeavers first ds ∧
      ((∀ before, before <+: ds → count before = size before) ↔
        ∀ before r after, ds = before ++ .memberRemove r :: after → r.user.id ∈ before.foldl Dispatch.see first) := by
  intro first count size
  have start := update_guildCreate s available
  have heads := headcount_putSnapshot reachable.ownership reported right listed
  have own := reachable.ownership.putSnapshot g
  have counted {ds : List Dispatch} (faithful : Dispatch.Faithful g.id members ds) :
      count ds = size ds + Dispatch.unseenLeavers first ds := by
    have after := (heads.follow own faithful).2.count
    rw [Nat.zero_add, ← follow_cons_ok start] at after
    exact after
  refine ⟨?_, counted faithful, ?_⟩
  · rw [accepted_cons_ok start, (heads.follow own faithful).1]
  · rw [← Dispatch.unseenLeavers_eq_zero]
    constructor
    · intro always
      have last := always ds List.prefix_rfl
      rw [counted faithful] at last
      omega
    · rintro none before ⟨after, rfl⟩
      rw [Dispatch.unseenLeavers_append] at none
      rw [counted (Dispatch.faithful_append.1 faithful).1]
      omega

def town : Guild := { Guild.bare ⟨1⟩ with memberCount := some 5, members := [.bare ⟨100⟩] }

def townsfolk : Finset UserId := {⟨100⟩, ⟨101⟩, ⟨102⟩, ⟨103⟩, ⟨104⟩}

theorem headcount_of_seen_leaver :
    let ds : List Dispatch := [.memberAdd ⟨⟨1⟩, .bare ⟨105⟩⟩, .membersChunk ⟨⟨1⟩, [.bare ⟨100⟩, .bare ⟨101⟩], [], 0, 1⟩,
      .memberUpdate ⟨⟨1⟩, (Member.bare ⟨104⟩).user, .absent, .absent, .absent, .absent, .absent⟩,
      .memberRemove ⟨⟨1⟩, (Member.bare ⟨104⟩).user⟩]
    Dispatch.Faithful ⟨1⟩ townsfolk ds ∧ Store.empty.accepted (.guildCreate town :: ds) = .guildCreate town :: ds ∧
      (∀ before, before <+: ds → (Store.empty.follow (.guildCreate town :: before)).memberCount ⟨1⟩ =
        (before.foldl Dispatch.turn townsfolk).card) ∧
      (ds.foldl Dispatch.turn townsfolk).card = 5 := by
  intro ds
  have faithful : Dispatch.Faithful ⟨1⟩ townsfolk ds :=
    ⟨⟨rfl, by decide⟩, ⟨rfl, by decide⟩, ⟨rfl, by decide⟩, ⟨rfl, by decide⟩, trivial⟩
  obtain ⟨accepted, -, right⟩ := Reachable.empty.headcount (g := town) rfl rfl (by decide) (by decide) faithful
  refine ⟨faithful, accepted, right.2 ?_, by decide⟩
  exact Dispatch.unseenLeavers_eq_zero.1 (by decide)

theorem headcount_misses_unseen_leaver :
    let leave : Dispatch := .memberRemove ⟨⟨1⟩, (Member.bare ⟨104⟩).user⟩
    (town.memberCount = some 5 ∧ townsfolk.card = 5 ∧ ∀ m ∈ town.members, m.user.id ∈ townsfolk) ∧
      Dispatch.Faithful town.id townsfolk [leave] ∧
      Store.empty.accepted [.guildCreate town, leave] = [.guildCreate town, leave] ∧
      (leave.turn townsfolk).card = 4 ∧ (Store.empty.follow [.guildCreate town, leave]).memberCount town.id = 5 := by
  intro leave
  have faithful : Dispatch.Faithful town.id townsfolk [leave] := ⟨⟨rfl, by decide⟩, trivial⟩
  exact ⟨by decide, faithful, by decide +kernel, by decide, by decide +kernel⟩

end Store
end GuildFeed
