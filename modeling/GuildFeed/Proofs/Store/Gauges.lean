import Mathlib.Algebra.BigOperators.Ring.Finset
import GuildFeed.Metrics
import GuildFeed.Proofs.Session.Process
import GuildFeed.Proofs.Table

namespace GuildFeed

namespace Store

structure Tally where
  guilds : Std.ExtTreeMap GuildId GuildEntry
  guildGauge : Int
  memberGauge : Int

def tally (s : Store) : Tally := ⟨s.guilds, s.guildGauge, s.memberGauge⟩

def reported (guilds : Std.ExtTreeMap GuildId GuildEntry) : Nat :=
  (guilds.toList.map (·.2.memberCount)).sum

def totalMembers (s : Store) : Nat := reported s.guilds

structure Tally.Balanced (t : Tally) : Prop where
  guilds : t.guildGauge = t.guilds.size
  members : t.memberGauge = reported t.guilds

variable {s t : Store} {e : Event}

theorem reported_eq (guilds : Std.ExtTreeMap GuildId GuildEntry) (g : GuildId) :
    reported guilds = ((guilds[g]?).map GuildEntry.memberCount).getD 0 + reported (guilds.erase g) :=
  Table.total_eq GuildEntry.memberCount guilds g

theorem reported_insert (guilds : Std.ExtTreeMap GuildId GuildEntry) (g : GuildId) (entry : GuildEntry) :
    reported (guilds.insert g entry) = entry.memberCount + reported (guilds.erase g) :=
  Table.total_insert GuildEntry.memberCount guilds g entry

/-! ## The changes that there are -/

theorem balanced_empty : Store.empty.tally.Balanced where
  guilds := by simp [tally, empty]
  members := rfl

theorem Tally.Balanced.setGuild (balanced : s.tally.Balanced) (entry : GuildEntry) :
    (s.setGuild entry).tally.Balanced where
  guilds := by
    have before : s.guildGauge = s.guilds.size := balanced.guilds
    change s.guildGauge + (if s.isCached entry.id then 0 else 1) = ((s.guilds.insert entry.id entry).size : Int)
    rw [before, Std.ExtTreeMap.size_insert, isCached]
    split
    · simp
    · simp
  members := by
    have before : s.memberGauge = reported s.guilds := balanced.members
    have split := reported_eq s.guilds entry.id
    have count : ((s.guilds[entry.id]?).map GuildEntry.memberCount).getD 0 = s.memberCount entry.id := rfl
    change s.memberGauge + (entry.memberCount - s.memberCount entry.id) =
      (reported (s.guilds.insert entry.id entry) : Int)
    rw [reported_insert]
    omega

theorem Tally.Balanced.withoutGuild (balanced : s.tally.Balanced) (g : GuildId) :
    (s.withoutGuild g).tally.Balanced where
  guilds := by
    have before : s.guildGauge = s.guilds.size := balanced.guilds
    change s.guildGauge - (if s.isCached g then 1 else 0) = ((s.guilds.erase g).size : Int)
    rw [before, Std.ExtTreeMap.size_erase, isCached]
    have bound : s.guilds.size ≤ (s.guilds.erase g).size + 1 := Std.ExtTreeMap.size_le_size_erase
    split
    · next cached =>
      have some : s.guilds.size ≠ 0 := by
        intro none
        rw [Std.ExtTreeMap.eq_empty_iff_size_eq_zero.2 none] at cached
        simp at cached
      omega
    · simp
  members := by
    have before : s.memberGauge = reported s.guilds := balanced.members
    have split := reported_eq s.guilds g
    have count : ((s.guilds[g]?).map GuildEntry.memberCount).getD 0 = s.memberCount g := rfl
    change s.memberGauge - s.memberCount g = reported (s.guilds.erase g)
    omega

theorem Tally.Balanced.dropListed (balanced : s.tally.Balanced) (gs : List GuildId) :
    (s.dropListed gs).tally.Balanced := by
  induction gs generalizing s with
  | nil => exact balanced
  | cons g gs ih => exact ih (balanced.withoutGuild g)

/-- What a command adds to the count of a guild that is cached before and after it. -/
def drift (s : Store) (x : Command) (g : GuildId) : Int :=
  match x with
  | .dispatch (.guildCreate n) => if n.id = g then (GuildEntry.ofGuild n).memberCount - s.memberCount g else 0
  | .dispatch (.memberAdd a) =>
    if a.guildId = g ∧ s.members.get? ⟨a.guildId, a.member.user.id⟩ = none then 1 else 0
  | .dispatch (.memberRemove r) =>
    if r.guildId = g ∧ s.members.get? ⟨r.guildId, r.user.id⟩ ≠ none ∧ 0 < s.memberCount g then -1 else 0
  | .upsert (.guild entry) => if entry.id = g then entry.memberCount - s.memberCount g else 0
  | _ => 0

/-- What a command can make of the table and the gauges. -/
inductive Recounts (s : Store) (x : Command) : Tally → Prop
  | keep (still : ∀ g ∈ s.guilds, s.drift x g = 0) : Recounts s x s.tally
  | set (entry : GuildEntry)
      (counted : ∀ g, entry.id = g → s.drift x g = entry.memberCount - s.memberCount g)
      (still : ∀ g ∈ s.guilds, entry.id ≠ g → s.drift x g = 0) : Recounts s x (s.setGuild entry).tally
  | drop (gs : List GuildId) (still : ∀ g, g ∉ gs → s.drift x g = 0) : Recounts s x (s.dropListed gs).tally
  | clear : Recounts s x empty.tally

namespace Recounts
variable {x : Command} {u : Tally}

theorem balanced (recounts : s.Recounts x u) (before : s.tally.Balanced) : u.Balanced := by
  cases recounts with
  | keep still => exact before
  | set entry counted still => exact before.setGuild entry
  | drop gs still => exact before.dropListed gs
  | clear => exact balanced_empty

end Recounts

theorem memberCount_setGuild (s : Store) (entry : GuildEntry) (g : GuildId) :
    (s.setGuild entry).memberCount g = if entry.id = g then entry.memberCount else s.memberCount g := by
  simp only [memberCount, guild?, setGuild, Std.ExtTreeMap.getElem?_insert, Std.LawfulEqCmp.compare_eq_iff_eq]
  split <;> rfl

theorem guild?_dropListed (s : Store) (gs : List GuildId) (g : GuildId) :
    (s.dropListed gs).guild? g = if g ∈ gs then none else s.guild? g := by
  induction gs generalizing s with
  | nil => rfl
  | cons h gs ih =>
    have rest : ((s.withoutGuild h).mark h).guild? g = if h = g then none else s.guild? g := by
      simp only [guild?, mark, withoutGuild, Std.ExtTreeMap.getElem?_erase, Std.LawfulEqCmp.compare_eq_iff_eq]
    rw [dropListed, List.foldl_cons]
    refine (ih _).trans ?_
    rw [rest]
    by_cases same : h = g
    · simp [same]
    · have other : g ≠ h := fun eq => same eq.symm
      simp [same, other]

theorem Recounts.memberCount {x : Command} (recounts : s.Recounts x t.tally) {g : GuildId} (cached : g ∈ t.guilds) :
    (t.memberCount g : Int) = s.memberCount g + s.drift x g := by
  generalize same : t.tally = u at recounts
  cases recounts with
  | keep still =>
    have guilds : t.guilds = s.guilds := congrArg Tally.guilds same
    have count : t.memberCount g = s.memberCount g := by rw [Store.memberCount, guild?, guilds]; rfl
    rw [still g (guilds ▸ cached), count, Int.add_zero]
  | set entry counted still =>
    have guilds : t.guilds = (s.setGuild entry).guilds := congrArg Tally.guilds same
    have count : t.memberCount g = (s.setGuild entry).memberCount g := by
      rw [Store.memberCount, guild?, guilds]; rfl
    rw [count, memberCount_setGuild]
    by_cases own : entry.id = g
    · rw [if_pos own, counted g own]
      omega
    · have before : g ∈ s.guilds := by
        rw [guilds] at cached
        exact ((Ownership.mem_guilds_insert g).1 cached).resolve_left own
      rw [if_neg own, still g before own, Int.add_zero]
  | drop gs still =>
    have guilds : t.guilds = (s.dropListed gs).guilds := congrArg Tally.guilds same
    have known : t.guild? g = if g ∈ gs then none else s.guild? g := by
      rw [← guild?_dropListed, guild?, guilds]; rfl
    have kept : g ∉ gs := by
      intro mem
      rw [if_pos mem] at known
      have absent : g ∉ t.guilds := by simpa [guild?] using known
      exact absent cached
    rw [if_neg kept] at known
    have count : t.memberCount g = s.memberCount g := by rw [Store.memberCount, known]; rfl
    rw [still g kept, count, Int.add_zero]
  | clear =>
    have guilds : t.guilds = ∅ := congrArg Tally.guilds same
    rw [guilds] at cached
    simp at cached

/-! ## Changes of one entry -/

theorem tally_setGuild {entry old : GuildEntry} (found : s.guild? entry.id = some old) :
    (s.setGuild entry).tally =
      ⟨s.guilds.insert entry.id entry, s.guildGauge, s.memberGauge + (entry.memberCount - old.memberCount)⟩ := by
  have cached : s.isCached entry.id = true := isCached_iff.2 (mem_guilds_of_guild? found)
  have count : s.memberCount entry.id = old.memberCount := by rw [memberCount, found]; rfl
  simp [tally, setGuild, cached, count]

theorem tally_setGuild_congr (same : t.tally = s.tally) (entry : GuildEntry) :
    (t.setGuild entry).tally = (s.setGuild entry).tally := by
  simp only [tally, Tally.mk.injEq] at same
  obtain ⟨guilds, guildGauge, memberGauge⟩ := same
  simp only [tally, setGuild, isCached, memberCount, guild?, guilds, guildGauge, memberGauge]
  rfl

theorem tally_countJoin {g : GuildId} {old : GuildEntry} (found : s.guild? g = some old) (named : old.id = g) :
    (s.countJoin g).tally = (s.setGuild { old with memberCount := old.memberCount + 1 }).tally := by
  subst named
  have kept : s.guild? { old with memberCount := old.memberCount + 1 }.id = some old := found
  rw [tally_setGuild kept]
  simp only [countJoin, found, tally, Tally.mk.injEq, true_and]
  omega

theorem tally_countLeave {g : GuildId} {old : GuildEntry} (found : s.guild? g = some old) (named : old.id = g)
    (any : 0 < old.memberCount) :
    (s.countLeave g).tally = (s.setGuild { old with memberCount := old.memberCount - 1 }).tally := by
  subst named
  have kept : s.guild? { old with memberCount := old.memberCount - 1 }.id = some old := found
  rw [tally_setGuild kept]
  have left : old.memberCount ≠ 0 := by omega
  simp only [countLeave, found, left, if_false, tally, Tally.mk.injEq, true_and]
  omega

theorem tally_putSnapshot (own : s.Ownership) (g : Guild) :
    (s.putSnapshot g).tally = (s.setGuild (.ofGuild g)).tally := by
  rw [putSnapshot_eq own]
  rfl

/-! ## Every command -/

theorem Recounts.of_eq {x : Command} (same : t.tally = s.tally) (still : ∀ g ∈ s.guilds, s.drift x g = 0) :
    s.Recounts x t.tally := by
  rw [same]
  exact .keep still

theorem recounts_memberAdd (own : s.Ownership) {a : MemberAdd} (h : s.onMemberAdd a = .ok (t, e)) :
    s.Recounts (.dispatch (.memberAdd a)) t.tally := by
  obtain ⟨cached, -, rfl⟩ := onMemberAdd_ok.1 h
  have kept := congrArg tally (rest_cacheMember s (.ofMember a.member a.guildId))
  cases known : s.members.get? ⟨a.guildId, a.member.user.id⟩ with
  | some m =>
    refine .of_eq kept fun g _ => if_neg ?_
    simp [known]
  | none =>
    obtain ⟨old, found⟩ := Option.isSome_iff_exists.1 (Std.ExtTreeMap.mem_iff_isSome_getElem?.1 cached)
    have named : old.id = a.guildId := own.guild_id found
    have count : s.memberCount a.guildId = old.memberCount := by rw [memberCount, guild?, found]; rfl
    have found' : (s.cacheMember (.ofMember a.member a.guildId)).guild? a.guildId = some old :=
      (congrArg (fun u : Tally => u.guilds[a.guildId]?) kept).trans found
    change s.Recounts _ ((s.cacheMember (.ofMember a.member a.guildId)).countJoin a.guildId).tally
    rw [tally_countJoin found' named, tally_setGuild_congr kept]
    refine .set _ ?_ ?_
    · rintro g rfl
      rw [drift, if_pos ⟨named.symm, known⟩, named, count]
      show (1 : Int) = (old.memberCount + 1 : Nat) - old.memberCount
      omega
    · intro g _ other
      refine if_neg ?_
      rintro ⟨same, -⟩
      exact other (named.trans same)

theorem recounts_memberRemove (own : s.Ownership) (r : MemberRemove) :
    s.Recounts (.dispatch (.memberRemove r)) (s.onMemberRemove r).1.tally := by
  let rest := (s.deletePresence ⟨r.guildId, r.user.id⟩).deleteMember ⟨r.guildId, r.user.id⟩
  have kept : rest.tally = s.tally := rfl
  cases known : s.members.get? ⟨r.guildId, r.user.id⟩ with
  | none =>
    have same : (s.onMemberRemove r).1 = rest := by simp only [onMemberRemove, known]; rfl
    rw [same]
    refine .of_eq kept fun g _ => if_neg ?_
    simp [known]
  | some m =>
    have same : (s.onMemberRemove r).1 = rest.countLeave r.guildId := by simp only [onMemberRemove, known]; rfl
    rw [same]
    cases found : s.guild? r.guildId with
    | none =>
      have none : rest.countLeave r.guildId = rest := by
        have found' : rest.guild? r.guildId = none := found
        simp only [countLeave, found']
      rw [none]
      refine .of_eq kept fun g cached => if_neg ?_
      rintro ⟨rfl, -⟩
      have uncached : r.guildId ∉ s.guilds := by simpa [guild?] using found
      exact uncached cached
    | some old =>
      have named : old.id = r.guildId := own.guild_id found
      have count : s.memberCount r.guildId = old.memberCount := by rw [memberCount, found]; rfl
      by_cases left : old.memberCount = 0
      · have none : rest.countLeave r.guildId = rest := by
          have found' : rest.guild? r.guildId = some old := found
          simp only [countLeave, found', left, if_true]
        rw [none]
        refine .of_eq kept fun g _ => if_neg ?_
        rintro ⟨rfl, -, positive⟩
        omega
      · rw [tally_countLeave (s := rest) found named (by omega), tally_setGuild_congr kept]
        refine .set _ ?_ ?_
        · rintro g rfl
          have present : s.members.get? ⟨r.guildId, r.user.id⟩ ≠ none := by simp [known]
          have positive : 0 < s.memberCount old.id := by rw [named, count]; omega
          rw [drift, if_pos ⟨named.symm, present, positive⟩, named, count]
          show (-1 : Int) = (old.memberCount - 1 : Nat) - old.memberCount
          omega
        · intro g _ other
          refine if_neg ?_
          rintro ⟨same, -⟩
          exact other (named.trans same)

theorem recounts_update (own : s.Ownership) {d : Dispatch} (h : s.update d = .ok (t, e)) :
    s.Recounts (.dispatch d) t.tally := by
  have still {d : Dispatch} (none : ∀ g, s.drift (.dispatch d) g = 0) (same : t.tally = s.tally) :
      s.Recounts (.dispatch d) t.tally := .of_eq same fun g _ => none g
  cases d with
  | guildCreate g =>
    have changed : (s.onGuildCreate g).1 = t := congrArg Prod.fst (Except.ok.inj h)
    subst changed
    cases down : g.unavailable with
    | true =>
      have dropped : (s.onGuildCreate g).1 = s.dropListed [g.id] := by
        simp only [onGuildCreate, down, if_true]
        rfl
      rw [dropped]
      refine .drop [g.id] fun h other => if_neg ?_
      rintro rfl
      exact other List.mem_cons_self
    | false =>
      have filled : (s.onGuildCreate g).1 = s.putSnapshot g := by
        simp only [onGuildCreate, down, Bool.false_eq_true, if_false]
      rw [filled, tally_putSnapshot own]
      refine .set _ ?_ ?_
      · rintro h rfl
        exact if_pos rfl
      · intro h _ other
        exact if_neg other
  | guildDelete n =>
    have changed : (s.onGuildDelete n).1 = t := congrArg Prod.fst (Except.ok.inj h)
    have dropped : (s.onGuildDelete n).1.tally = (s.dropListed [n.id]).tally := by
      simp only [onGuildDelete]
      split <;> rfl
    rw [← changed, dropped]
    exact .drop [n.id] fun _ _ => rfl
  | ready r =>
    obtain ⟨⟩ := h
    have dropped : ((s.setUser r.user).dropListed r.listed).tally = (s.dropListed r.listed).tally := by
      have apart (gs : List GuildId) (s : Store) :
          (s.setUser r.user).dropListed gs = (s.dropListed gs).setUser r.user := by
        induction gs generalizing s with
        | nil => rfl
        | cons g gs ih => exact ih ((s.withoutGuild g).mark g)
      rw [apart]
      rfl
    rw [dropped]
    exact .drop r.listed fun _ _ => rfl
  | guildUpdate u =>
    obtain ⟨old, found, rfl, -⟩ := onGuildUpdate_ok.1 h
    have known : old.id = u.id := own.guild_id found
    have named : (old.merge u).id = u.id := known
    have count : s.memberCount u.id = old.memberCount := by rw [memberCount, found]; rfl
    have same : tally { s with guilds := s.guilds.insert u.id (old.merge u) } = (s.setGuild (old.merge u)).tally := by
      rw [tally_setGuild (named ▸ found), named]
      simp [tally, GuildEntry.merge]
    rw [same]
    refine .set _ ?_ fun _ _ _ => rfl
    rintro g rfl
    rw [named, count]
    show (0 : Int) = old.memberCount - old.memberCount
    omega
  | memberAdd a => exact recounts_memberAdd own h
  | memberRemove r =>
    have changed : (s.onMemberRemove r).1 = t := congrArg Prod.fst (Except.ok.inj h)
    rw [← changed]
    exact recounts_memberRemove own r
  | membersChunk c =>
    obtain ⟨-, rfl, -⟩ := onMembersChunk_ok.1 h
    have kept := view_membersChunk tally (fun s m => (congrArg tally (rest_cacheMember s m) :)) (fun _ _ _ => rfl) c s
    exact still (fun _ => rfl) kept
  | channelCreate c =>
    obtain ⟨-, rfl, -⟩ := onChannelCreate_ok.1 h
    exact still (fun _ => rfl) rfl
  | channelDelete c =>
    have changed : s.deleteChannel c.id = t := congrArg Prod.fst (Except.ok.inj h)
    exact still (fun _ => rfl) (changed ▸ (congrArg tally (rest_deleteChannel s c.id) :))
  | channelUpdate u =>
    obtain ⟨-, ⟨_, -, rfl, -⟩ | ⟨_, -, -, rfl, -⟩⟩ := onChannelUpdate_ok.1 h
    · exact still (fun _ => rfl) rfl
    · exact still (fun _ => rfl) rfl
  | emojisUpdate u =>
    obtain ⟨-, rfl⟩ := onEmojisUpdate_ok.1 ⟨e, h⟩
    exact still (fun _ => rfl) rfl
  | memberUpdate u =>
    obtain ⟨-, ⟨_, -, rfl, -⟩ | ⟨-, rfl, -⟩⟩ := onMemberUpdate_ok.1 h
    · exact still (fun _ => rfl) rfl
    · exact still (fun _ => rfl) rfl
  | presenceUpdate u =>
    obtain ⟨_, -, -, rfl, -⟩ := onPresenceUpdate_ok.1 h
    exact still (fun _ => rfl) rfl
  | roleCreate r =>
    obtain ⟨-, rfl, -⟩ := onRoleCreate_ok.1 h
    exact still (fun _ => rfl) rfl
  | roleUpdate r =>
    obtain ⟨-, rfl, -⟩ := onRoleUpdate_ok.1 h
    exact still (fun _ => rfl) rfl
  | roleDelete r =>
    have changed : (s.onRoleDelete r).1 = t := congrArg Prod.fst (Except.ok.inj h)
    refine still (fun _ => rfl) (changed ▸ ?_)
    unfold onRoleDelete
    split
    · exact (congrArg tally (rest_deleteRole s r.roleId) :)
    · rfl
  | voiceStateUpdate v =>
    obtain ⟨g, -, -, rfl, -⟩ := onVoiceStateUpdate_ok.1 h
    exact still (fun _ => rfl) (congrArg tally (rest_putVoiceState s g v) :)
  | userUpdate u =>
    obtain ⟨⟩ := h
    exact still (fun _ => rfl) rfl
  | unknown name payload =>
    obtain ⟨⟩ := h
    exact still (fun _ => rfl) rfl

theorem recounts_refused {d : Dispatch} {err : StoreError} (h : s.update d = .error err) :
    s.Recounts (.dispatch d) s.tally := by
  refine .keep fun g cached => ?_
  cases d with
  | memberAdd a =>
    refine if_neg ?_
    rintro ⟨rfl, -⟩
    have accepted : s.update (.memberAdd a) = .ok (_, _) := onMemberAdd_ok.2 ⟨cached, rfl, rfl⟩
    cases h.symm.trans accepted
  | guildCreate g => cases h
  | memberRemove r => cases h
  | _ => rfl

theorem recounts_insert (s : Store) (x : Entity) : s.Recounts (.upsert x) (s.insert x).tally := by
  cases x with
  | guild entry =>
    have same : (s.insert (.guild entry)).tally = (s.setGuild entry).tally := by
      rw [insert]
      split <;> rfl
    rw [same]
    refine .set entry ?_ ?_
    · rintro g rfl
      exact if_pos rfl
    · intro g _ other
      exact if_neg other
  | _ => exact .of_eq rfl fun _ _ => rfl

theorem recounts_without (s : Store) (k : EntityKey) : s.Recounts (.remove k) (s.without k).tally := by
  cases k with
  | guild g => exact .drop [g] fun _ _ => rfl
  | channel id => exact .of_eq (congrArg tally (rest_deleteChannel s id) :) fun _ _ => rfl
  | role id => exact .of_eq (congrArg tally (rest_deleteRole s id) :) fun _ _ => rfl
  | emoji id => exact .of_eq (congrArg tally (rest_deleteEmoji s id) :) fun _ _ => rfl
  | _ => exact .of_eq rfl fun _ _ => rfl

theorem recounts_step (own : s.Ownership) (x : Command) : s.Recounts x (s.step x).tally := by
  cases x with
  | dispatch d =>
    simp only [step]
    split
    · next accepted => exact recounts_update own accepted
    · next refused => exact recounts_refused refused
  | upsert x =>
    simp only [step]
    split
    · next accepted =>
      obtain ⟨-, rfl, -⟩ := upsert_ok.1 accepted
      exact recounts_insert s x
    · next refused =>
      cases x with
      | guild entry => cases refused
      | _ => exact .keep fun _ _ => rfl
  | remove k => exact recounts_without s k
  | removeGuild g => exact .drop [g] fun _ _ => rfl
  | clear => exact .clear

theorem Reachable.balanced (reachable : s.Reachable) : s.tally.Balanced := by
  induction reachable with
  | empty => exact balanced_empty
  | step reachable x balanced => exact (recounts_step reachable.ownership x).balanced balanced

theorem gaugeReading_natCast {n : Nat} (fits : n < 2 ^ 63) : gaugeReading n = n := by
  have size : UInt64.size = 2 ^ 64 := rfl
  rw [gaugeReading, size]
  apply Int.bmod_eq_of_le
  · omega
  · omega

end Store

namespace Cluster
variable {ι : Type} [DecidableEq ι]

/-- The gauges show how many guilds there are and how many members these report, as long as these
numbers fit. Every command changes the count of a guild that stays by just what it should, which
never takes it below zero. -/
theorem Reachable.gauges {c : Cluster ι} (reachable : c.Reachable) :
    let s := c.hub.store
    (s.guildGauge = s.guilds.size ∧ s.memberGauge = s.totalMembers) ∧
      (s.guilds.size < 2 ^ 63 → gaugeReading s.guildGauge = s.guilds.size) ∧
      (s.totalMembers < 2 ^ 63 → gaugeReading s.memberGauge = s.totalMembers) ∧
      ∀ (x : Command) (g : GuildId), g ∈ (s.step x).guilds →
        ((s.step x).memberCount g : Int) = s.memberCount g + s.drift x g := by
  intro s
  have balanced := reachable.store.balanced
  have guilds : s.guildGauge = s.guilds.size := balanced.guilds
  have members : s.memberGauge = s.totalMembers := balanced.members
  refine ⟨⟨guilds, members⟩, ?_, ?_, ?_⟩
  · intro fits
    rw [guilds, Store.gaugeReading_natCast fits]
  · intro fits
    rw [members, Store.gaugeReading_natCast fits]
  · intro x g cached
    exact (Store.recounts_step reachable.store.ownership x).memberCount cached

def leaver : User := ⟨⟨5⟩, "", none, none, false⟩

theorem gauges_leave :
    let c : Cluster Unit := (Cluster.empty.command (.dispatch (.guildCreate (.bare ⟨1⟩)))).command
      (.dispatch (.memberAdd ⟨⟨1⟩, leaver, none, [], none, false, false⟩))
    let left : Command := .dispatch (.memberRemove ⟨⟨1⟩, leaver⟩)
    c.Reachable ∧ gaugeReading c.hub.store.guildGauge = 1 ∧ gaugeReading c.hub.store.memberGauge = 1 ∧
      ((c.hub.store.step left).memberCount ⟨1⟩ : Int) = 1 + -1 ∧
      (((c.hub.store.step left).step left).memberCount ⟨1⟩ : Int) = 0 := by
  intro c left
  have reachable : c.Reachable := (Reachable.empty.command _).command _
  obtain ⟨-, guilds, members, law⟩ := reachable.gauges
  have oneGuild : c.hub.store.guilds.size = 1 := by decide +kernel
  have oneMember : c.hub.store.totalMembers = 1 := by decide +kernel
  have drift : c.hub.store.drift left ⟨1⟩ = -1 := by decide +kernel
  have count : c.hub.store.memberCount ⟨1⟩ = 1 := by decide +kernel
  have still : (c.hub.store.step left).drift left ⟨1⟩ = 0 := by decide +kernel
  rw [oneGuild] at guilds
  rw [oneMember] at members
  have once := law left ⟨1⟩ (by decide +kernel)
  rw [drift, count] at once
  have twice := (reachable.command left).gauges.2.2.2 left ⟨1⟩ (by decide +kernel)
  have rest : (c.command left).hub.store = c.hub.store.step left := rfl
  rw [rest, still, once] at twice
  exact ⟨reachable, guilds (by omega), members (by omega), once, twice⟩

end Cluster
end GuildFeed
