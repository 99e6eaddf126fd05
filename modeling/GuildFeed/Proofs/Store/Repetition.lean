import GuildFeed.Proofs.Shelf.Repetition
import GuildFeed.Proofs.Store.Deletion
import GuildFeed.Proofs.Table

namespace GuildFeed

section
variable {α : Type}

theorem Patch.apply_apply (p : Patch α) (old : α) : p.apply (p.apply old) = p.apply old := by
  cases p <;> rfl

theorem Patch.applyNullable_applyNullable (p : Patch α) (old : Option α) :
    p.applyNullable (p.applyNullable old) = p.applyNullable old := by
  cases p <;> rfl

-- A last patch with a value decides alone, and any other leaves what came before it.
theorem Patch.foldl_apply_again (ps : List (Patch α)) (old : α) :
    ps.foldl (fun x p => p.apply x) (ps.foldl (fun x p => p.apply x) old) =
      ps.foldl (fun x p => p.apply x) old := by
  induction ps using List.reverseRecOn generalizing old with
  | nil => rfl
  | append_singleton ps p ih =>
    simp only [List.foldl_concat]
    cases p with
    | value a => rfl
    | absent => exact ih old
    | null => exact ih old

theorem Patch.foldl_applyNullable_again (ps : List (Patch α)) (old : Option α) :
    ps.foldl (fun x p => p.applyNullable x) (ps.foldl (fun x p => p.applyNullable x) old) =
      ps.foldl (fun x p => p.applyNullable x) old := by
  induction ps using List.reverseRecOn generalizing old with
  | nil => rfl
  | append_singleton ps p ih =>
    simp only [List.foldl_concat]
    cases p with
    | value a => rfl
    | absent => exact ih old
    | null => rfl

end

theorem GuildEntry.merge_merge (e : GuildEntry) (u : GuildUpdate) : (e.merge u).merge u = e.merge u := by
  simp only [merge, Patch.apply_apply, Patch.applyNullable_applyNullable]

theorem ChannelEntry.merge_merge (e : ChannelEntry) (u : ChannelUpdate) :
    (e.merge u).merge u = e.merge u := by
  simp only [merge, Patch.apply_apply, Patch.applyNullable_applyNullable]

theorem ChannelEntry.merge_ofUpdate? {e : ChannelEntry} {u : ChannelUpdate} (first : ofUpdate? u = some e) :
    e.merge u = e := by
  obtain ⟨kind, given, rfl⟩ := Option.map_eq_some_iff.1 first
  have named : u.kind.apply kind = kind := by
    cases h : u.kind with
    | value a =>
      rw [h] at given
      exact Option.some.inj given
    | absent => rfl
    | null => rfl
  simp only [merge, named, mk.injEq, true_and]
  refine ⟨?_, ?_, ?_, ?_, ?_⟩
  · cases u.name <;> rfl
  · cases u.position <;> rfl
  · cases u.parentId <;> rfl
  · cases u.topic <;> rfl
  · cases u.nsfw <;> rfl

theorem MemberEntry.merge_merge (m : MemberEntry) (u : MemberUpdate) : (m.merge u).merge u = m.merge u := by
  simp only [merge, Patch.apply_apply, Patch.applyNullable_applyNullable]

theorem MemberEntry.merge_ofUpdate (u : MemberUpdate) : (ofUpdate u).merge u = ofUpdate u := by
  simp only [merge, ofUpdate, mk.injEq, true_and]
  refine ⟨?_, ?_, ?_, ?_, ?_⟩
  · cases u.nick <;> rfl
  · cases u.roles <;> rfl
  · cases u.joinedAt <;> rfl
  · cases u.deaf <;> rfl
  · cases u.mute <;> rfl

theorem PresenceEntry.foldl_merge (p : PresenceEntry) (us : List PresenceUpdate) :
    us.foldl merge p = { p with presence :=
      ⟨(us.map (·.status)).foldl (fun x p => p.apply x) p.presence.status,
        (us.map (·.activity)).foldl (fun x p => p.applyNullable x) p.presence.activity⟩ } := by
  induction us generalizing p with
  | nil => rfl
  | cons u us ih => exact ih (p.merge u)

theorem PresenceEntry.foldl_merge_again (p : PresenceEntry) (us : List PresenceUpdate) :
    us.foldl merge (us.foldl merge p) = us.foldl merge p := by
  simp only [foldl_merge, Patch.foldl_apply_again, Patch.foldl_applyNullable_again]

namespace Store
open GuildFeed.Shelf

variable {s t : Store} {e : Event}

/-! ## Chunks of members -/

def merged (g : GuildId) (old : Option PresenceEntry) (u : PresenceUpdate) : PresenceEntry :=
  (old.getD (.start g u.user.id)).merge u

theorem repeatable_merged (g : GuildId) : Repeatable (·.user.id) (merged g) := by
  intro us o same
  cases us with
  | nil => rfl
  | cons u us =>
    -- from the first update on there is a presence to merge into
    have filled (us : List PresenceUpdate) (p : PresenceEntry) :
        us.foldl (fun o u => some (merged g o u)) (some p) = some (us.foldl PresenceEntry.merge p) := by
      induction us generalizing p with
      | nil => rfl
      | cons u us ih => exact ih (p.merge u)
    have start : (u :: us).foldl (fun o u => some (merged g o u)) o =
        some ((u :: us).foldl PresenceEntry.merge (o.getD (.start g u.user.id))) := filled us _
    rw [start, filled, PresenceEntry.foldl_merge_again]

theorem repeatable_ofMember (g : GuildId) :
    Repeatable (·.user.id) (fun (_ : Option MemberEntry) m => MemberEntry.ofMember m g) := by
  intro ms o _
  induction ms using List.reverseRecOn with
  | nil => rfl
  | append_singleton ms m _ => simp only [List.foldl_concat]

theorem id_merged (own : s.Ownership) (g : GuildId) (u : PresenceUpdate) :
    (merged g (s.presences.get? ⟨g, u.user.id⟩) u).id = ⟨g, u.user.id⟩ := by
  cases found : s.presences.get? ⟨g, u.user.id⟩ with
  | none => rfl
  | some p =>
    have key : p.id = ⟨g, u.user.id⟩ := own.presences.key_eq found
    exact key

theorem mergePresence_eq (own : s.Ownership) (g : GuildId) (u : PresenceUpdate) :
    s.mergePresence g u = { s with presences := amend g (·.user.id) (merged g) s.presences u } := by
  have place := id_merged own g u
  have guild : (merged g (s.presences.get? ⟨g, u.user.id⟩) u).guildId = g := congrArg MemberId.guild place
  show s.putPresence (merged g (s.presences.get? ⟨g, u.user.id⟩) u) = _
  rw [putPresence, place, guild]
  rfl

theorem mergePresences_eq (own : s.Ownership) {g : GuildId} (cached : g ∈ s.guilds)
    (us : List PresenceUpdate) : us.foldl (·.mergePresence g ·) s =
      { s with presences := us.foldl (amend g (·.user.id) (merged g)) s.presences } := by
  induction us generalizing s with
  | nil => rfl
  | cons u us ih =>
    have own' := own.mergePresence cached u
    rw [mergePresence_eq own] at own'
    rw [List.foldl_cons, mergePresence_eq own]
    exact ih own' cached

def takeChunk (s : Store) (c : MembersChunk) : Store :=
  { s with
    members := c.members.foldl (amend c.guildId (·.user.id) fun _ m => .ofMember m c.guildId) s.members
    presences := c.presences.foldl (amend c.guildId (·.user.id) (merged c.guildId)) s.presences }

theorem onMembersChunk_eq (own : s.Ownership) {c : MembersChunk} (cached : c.guildId ∈ s.guilds) :
    ∃ e, s.onMembersChunk c = .ok (s.takeChunk c, e) := by
  refine ⟨_, onMembersChunk_ok.2 ⟨cached, ?_, rfl⟩⟩
  obtain ⟨own', cached'⟩ := own.putMembers cached c.members
  rw [mergePresences_eq own' cached', putMembers_eq own.members cached]
  rfl

theorem takeChunk_takeChunk (own : s.Ownership) {c : MembersChunk} (cached : c.guildId ∈ s.guilds) :
    (s.takeChunk c).takeChunk c = s.takeChunk c := by
  have members := (own.members.mem_lists c.guildId).2 cached
  have presences := (own.presences.mem_lists c.guildId).2 cached
  simp only [takeChunk, foldl_amend_again _ (repeatable_ofMember c.guildId) members,
    foldl_amend_again _ (repeatable_merged c.guildId) presences]

/-! ## Changes that were made before -/

theorem mark_eq_self {g : GuildId} (marked : g ∈ s.unavailable) : s.mark g = s := by
  have same : s.unavailable.insert g = s.unavailable := Std.ExtTreeSet.ext_mem fun h => by
    rw [Std.ExtTreeSet.mem_insert, or_iff_right_iff_imp]
    intro eq
    exact Std.LawfulEqCmp.eq_of_compare eq ▸ marked
  rw [mark, same]

theorem unmark_eq_self {g : GuildId} (unmarked : g ∉ s.unavailable) : s.unmark g = s := by
  have same : s.unavailable.erase g = s.unavailable := Std.ExtTreeSet.ext_mem fun h => by
    rw [Std.ExtTreeSet.mem_erase, and_iff_right_iff_imp]
    intro mem eq
    exact unmarked (Std.LawfulEqCmp.eq_of_compare eq ▸ mem)
  rw [unmark, same]

theorem guilds_insert_eq_self {g : GuildId} {entry : GuildEntry} (found : s.guild? g = some entry) :
    s.guilds.insert g entry = s.guilds := by
  apply Std.ExtTreeMap.ext_getElem?
  intro h
  rw [Std.ExtTreeMap.getElem?_insert]
  split
  · next same =>
    have same := Std.LawfulEqCmp.eq_of_compare same
    rw [← same]
    exact found.symm
  · rfl

theorem setGuild_eq_self {entry : GuildEntry} (found : s.guild? entry.id = some entry) :
    s.setGuild entry = s := by
  have cached : s.isCached entry.id = true := isCached_iff.2 (mem_guilds_of_guild? found)
  have count : s.memberCount entry.id = entry.memberCount := by simp [memberCount, found]
  simp [setGuild, cached, count, guilds_insert_eq_self found]

theorem withoutGuild_eq_self (own : s.Ownership) {g : GuildId} (uncached : g ∉ s.guilds) :
    s.withoutGuild g = s := by
  have unknown : s.guild? g = none := Std.ExtTreeMap.getElem?_eq_none uncached
  have guilds := Table.erase_eq_self uncached
  have gauge : s.isCached g = false := by
    rw [Bool.eq_false_iff, ne_eq, isCached_iff]
    exact uncached
  have count : s.memberCount g = 0 := by rw [memberCount, unknown]; rfl
  have channels := close_eq_self fun mem => uncached ((own.channels.mem_lists g).1 mem)
  have roles := close_eq_self fun mem => uncached ((own.roles.mem_lists g).1 mem)
  have emojis := close_eq_self fun mem => uncached ((own.emojis.mem_lists g).1 mem)
  have members := close_eq_self fun mem => uncached ((own.members.mem_lists g).1 mem)
  have presences := close_eq_self fun mem => uncached ((own.presences.mem_lists g).1 mem)
  have voiceStates := close_eq_self fun mem => uncached ((own.voiceStates.mem_lists g).1 mem)
  simp [withoutGuild, guilds, gauge, count, channels, roles, emojis, members, presences, voiceStates]

theorem putChannel_eq_self (own : s.Ownership) {c : ChannelEntry} (found : s.channels.get? c.id = some c) :
    s.putChannel c = s := by
  have same : s.channels.put c.guildId c.id c = s.channels :=
    put_eq_self found fun g owner => own.channels.listed found owner
  rw [putChannel, same]

theorem putRole_eq_self (own : s.Ownership) {r : RoleEntry} (found : s.roles.get? r.id = some r) :
    s.putRole r = s := by
  have same : s.roles.put (some r.guildId) r.id r = s.roles :=
    put_eq_self found fun g owner => own.roles.listed found owner
  rw [putRole, same]

theorem putSnapshot_putSnapshot (own : s.Ownership) (g : Guild) :
    (s.putSnapshot g).putSnapshot g = s.putSnapshot g := by
  have unmarked : (s.putSnapshot g).unmark g.id = s.putSnapshot g := by
    apply unmark_eq_self
    rw [putSnapshot_eq own]
    simp [setGuild, unmark]
  have found : (s.putSnapshot g).guild? (GuildEntry.ofGuild g).id = some (.ofGuild g) := by
    rw [putSnapshot_eq own]
    exact Std.ExtTreeMap.getElem?_insert_self
  rw [putSnapshot_eq (own.putSnapshot g), unmarked, setGuild_eq_self found, putSnapshot_eq own]
  simp only [refill_refill]

theorem dropListed_eq_self (own : s.Ownership) {gs : List GuildId}
    (gone : ∀ g ∈ gs, g ∉ s.guilds ∧ g ∈ s.unavailable) : s.dropListed gs = s := by
  induction gs with
  | nil => rfl
  | cons g gs ih =>
    obtain ⟨uncached, marked⟩ := gone g List.mem_cons_self
    rw [dropListed, List.foldl_cons, withoutGuild_eq_self own uncached, mark_eq_self marked]
    exact ih fun h mem => gone h (List.mem_cons_of_mem g mem)

theorem currentUser_dropListed (s : Store) (gs : List GuildId) :
    (s.dropListed gs).currentUser = s.currentUser := by
  induction gs generalizing s with
  | nil => rfl
  | cons g gs ih => exact ih ((s.withoutGuild g).mark g)

theorem gone_dropListed {gs : List GuildId} {g : GuildId}
    (gone : g ∉ s.guilds ∧ g ∈ s.unavailable ∨ g ∈ gs) :
    g ∉ (s.dropListed gs).guilds ∧ g ∈ (s.dropListed gs).unavailable := by
  induction gs generalizing s with
  | nil =>
    rcases gone with gone | mem
    · exact gone
    · cases mem
  | cons h gs ih =>
    apply ih
    rcases gone with ⟨uncached, marked⟩ | mem
    · left
      constructor
      · intro mem
        exact uncached (Std.ExtTreeMap.mem_of_mem_erase mem)
      · exact Std.ExtTreeSet.mem_insert.2 (.inr marked)
    · rcases List.mem_cons.1 mem with rfl | mem
      · left
        constructor
        · exact fun mem => (Ownership.mem_guilds_erase g).1 mem |>.1 rfl
        · exact Std.ExtTreeSet.mem_insert_self
      · exact .inr mem

/-! ## Dispatches -/

theorem deleteChannel_deleteChannel (s : Store) (c : ChannelId) :
    (s.deleteChannel c).deleteChannel c = s.deleteChannel c := by
  conv_lhs => rw [deleteChannel, channel?_deleteChannel]

theorem onRoleDelete_again (s : Store) (r : RoleDelete) :
    ((s.onRoleDelete r).1.onRoleDelete r).1 = (s.onRoleDelete r).1 := by
  cases found : (s.roles.get? r.roleId).filter (·.guildId = r.guildId) with
  | none =>
    have kept : (s.onRoleDelete r).1 = s := by rw [onRoleDelete, found]
    rw [kept, kept]
  | some old =>
    have deleted : (s.onRoleDelete r).1 = s.deleteRole r.roleId := by rw [onRoleDelete, found]
    rw [deleted, onRoleDelete, role?_deleteRole]
    rfl

@[simp] theorem members_countLeave (s : Store) (g : GuildId) : (s.countLeave g).members = s.members := by
  rw [rest_countLeave]

@[simp] theorem presences_countLeave (s : Store) (g : GuildId) :
    (s.countLeave g).presences = s.presences := by
  rw [rest_countLeave]

theorem members_onMemberRemove (s : Store) (r : MemberRemove) :
    (s.onMemberRemove r).1.members = s.members.discard (some r.guildId) ⟨r.guildId, r.user.id⟩ := by
  simp only [onMemberRemove]
  split
  · exact members_countLeave ..
  · rfl

theorem presences_onMemberRemove (s : Store) (r : MemberRemove) :
    (s.onMemberRemove r).1.presences = s.presences.discard (some r.guildId) ⟨r.guildId, r.user.id⟩ := by
  simp only [onMemberRemove]
  split
  · exact presences_countLeave ..
  · rfl

theorem onMemberRemove_again (s : Store) (r : MemberRemove) :
    ((s.onMemberRemove r).1.onMemberRemove r).1 = (s.onMemberRemove r).1 := by
  let id : MemberId := ⟨r.guildId, r.user.id⟩
  have members : (s.onMemberRemove r).1.members.get? id = none := by
    rw [members_onMemberRemove, get?_discard, if_pos rfl]
  have presences : (s.onMemberRemove r).1.presences.get? id = none := by
    rw [presences_onMemberRemove, get?_discard, if_pos rfl]
  generalize (s.onMemberRemove r).1 = t at members presences
  have rest : (t.deletePresence id).deleteMember id = t := by
    rw [deletePresence, discard_eq_self presences, deleteMember, discard_eq_self members]
  simp only [onMemberRemove]
  rw [members]
  exact rest

/-! ## Every dispatch -/

theorem onReady_again (own : s.Ownership) (r : Ready) :
    ((s.onReady r).1.onReady r).1 = (s.onReady r).1 := by
  have own' : (s.onReady r).1.Ownership := (own.setUser r.user).dropListed r.listed
  have user : ((s.setUser r.user).dropListed r.listed).currentUser = some r.user :=
    currentUser_dropListed _ _
  have same : (s.onReady r).1.setUser r.user = (s.onReady r).1 := by
    rw [onReady, setUser, ← user]
  rw [onReady, same]
  exact dropListed_eq_self own' fun g mem => gone_dropListed (.inr mem)

theorem onGuildCreate_again (own : s.Ownership) (g : Guild) :
    ((s.onGuildCreate g).1.onGuildCreate g).1 = (s.onGuildCreate g).1 := by
  cases down : g.unavailable with
  | true =>
    have own' := (own.withoutGuild g.id).mark g.id
    have uncached : g.id ∉ ((s.withoutGuild g.id).mark g.id).guilds :=
      fun mem => ((Ownership.mem_guilds_erase _).1 mem).1 rfl
    have marked : g.id ∈ ((s.withoutGuild g.id).mark g.id).unavailable := Std.ExtTreeSet.mem_insert_self
    simp only [onGuildCreate, down, if_true]
    rw [withoutGuild_eq_self own' uncached, mark_eq_self marked]
  | false =>
    simp only [onGuildCreate, down]
    exact putSnapshot_putSnapshot own g

theorem onGuildDelete_again (own : s.Ownership) (n : GuildNotice) :
    ((s.onGuildDelete n).1.onGuildDelete n).1 = (s.onGuildDelete n).1 := by
  have own' := own.onGuildDelete n
  cases down : n.unavailable with
  | true =>
    simp only [onGuildDelete, down, if_true] at own' ⊢
    have uncached : n.id ∉ ((s.withoutGuild n.id).mark n.id).guilds :=
      fun mem => ((Ownership.mem_guilds_erase _).1 mem).1 rfl
    rw [withoutGuild_eq_self own' uncached, mark_eq_self Std.ExtTreeSet.mem_insert_self]
  | false =>
    simp only [onGuildDelete, down] at own' ⊢
    have uncached : n.id ∉ ((s.withoutGuild n.id).unmark n.id).guilds :=
      fun mem => ((Ownership.mem_guilds_erase _).1 mem).1 rfl
    have unmarked : n.id ∉ ((s.withoutGuild n.id).unmark n.id).unavailable := by
      simp [unmark]
    exact (congrArg (·.unmark n.id) (withoutGuild_eq_self own' uncached)).trans (unmark_eq_self unmarked)

theorem onGuildUpdate_again {u : GuildUpdate} (h : s.onGuildUpdate u = .ok (t, e)) :
    ∃ e', t.onGuildUpdate u = .ok (t, e') := by
  obtain ⟨old, -, rfl, -⟩ := onGuildUpdate_ok.1 h
  have found : guild? { s with guilds := s.guilds.insert u.id (old.merge u) } u.id = some (old.merge u) :=
    Std.ExtTreeMap.getElem?_insert_self
  refine ⟨_, onGuildUpdate_ok.2 ⟨old.merge u, found, ?_, rfl⟩⟩
  rw [GuildEntry.merge_merge, guilds_insert_eq_self found]

theorem onChannelCreate_again (own : s.Ownership) {c : Channel} (h : s.onChannelCreate c = .ok (t, e)) :
    ∃ e', t.onChannelCreate c = .ok (t, e') := by
  have own' := own.onChannelCreate h
  obtain ⟨cached, rfl, -⟩ := onChannelCreate_ok.1 h
  refine ⟨_, onChannelCreate_ok.2 ⟨cached, (putChannel_eq_self own' ?_).symm, rfl⟩⟩
  exact get?_put_self ..

theorem onChannelUpdate_again {u : ChannelUpdate} (h : s.onChannelUpdate u = .ok (t, e)) :
    ∃ e', t.onChannelUpdate u = .ok (t, e') := by
  -- either way the channel is cached then, and the update changes nothing in it
  have settled : (∀ g, u.guildId = some g → g ∈ t.guilds) ∧
      ∃ c, t.channels.get? u.id = some c ∧ c.merge u = c := by
    obtain ⟨cached, ⟨old, found, rfl, -⟩ | ⟨new, -, first, rfl, -⟩⟩ := onChannelUpdate_ok.1 h
    · refine ⟨cached, old.merge u, ?_, old.merge_merge u⟩
      rw [get?_modify, if_pos rfl, found]
      rfl
    · have id : new.id = u.id := by
        obtain ⟨_, -, rfl⟩ := Option.map_eq_some_iff.1 first
        rfl
      exact ⟨cached, new, (get?_put ..).trans (if_pos id), ChannelEntry.merge_ofUpdate? first⟩
  obtain ⟨cached, c, found, fixed⟩ := settled
  have same : t.channels.modify u.id (·.merge u) = t.channels := by
    apply modify_eq_self
    intro d hd
    rw [found, Option.some.injEq] at hd
    exact hd ▸ fixed
  refine ⟨_, onChannelUpdate_ok.2 ⟨cached, .inl ⟨c, found, ?_, rfl⟩⟩⟩
  rw [same]

theorem onRoleCreate_again (own : s.Ownership) {r : GuildRole} (h : s.onRoleCreate r = .ok (t, e)) :
    ∃ e', t.onRoleCreate r = .ok (t, e') := by
  have own' := own.onRoleCreate h
  obtain ⟨cached, rfl, -⟩ := onRoleCreate_ok.1 h
  refine ⟨_, onRoleCreate_ok.2 ⟨cached, (putRole_eq_self own' ?_).symm, rfl⟩⟩
  exact get?_put_self ..

theorem onRoleUpdate_again (own : s.Ownership) {r : GuildRole} (h : s.onRoleUpdate r = .ok (t, e)) :
    ∃ e', t.onRoleUpdate r = .ok (t, e') := by
  have own' := own.onRoleUpdate h
  obtain ⟨cached, rfl, -⟩ := onRoleUpdate_ok.1 h
  refine ⟨_, onRoleUpdate_ok.2 ⟨cached, (putRole_eq_self own' ?_).symm, rfl⟩⟩
  exact get?_put_self ..

theorem member?_cacheMember (s : Store) (m : MemberEntry) : (s.cacheMember m).members.get? m.id = some m := by
  unfold cacheMember
  split
  · next found => exact found
  · exact get?_put_self ..

@[simp] theorem members_countJoin (s : Store) (g : GuildId) : (s.countJoin g).members = s.members := by
  rw [rest_countJoin]

theorem mem_guilds_countJoin {g h : GuildId} (cached : h ∈ s.guilds) : h ∈ (s.countJoin g).guilds := by
  unfold countJoin
  split
  · exact cached
  · exact Std.ExtTreeMap.mem_insert.2 (.inr cached)

theorem onMemberAdd_again {a : MemberAdd} (h : s.onMemberAdd a = .ok (t, e)) :
    ∃ e', t.onMemberAdd a = .ok (t, e') := by
  let new := MemberEntry.ofMember a.member a.guildId
  have settled : a.guildId ∈ t.guilds ∧ t.members.get? new.id = some new := by
    obtain ⟨cached, -, rfl⟩ := onMemberAdd_ok.1 h
    have kept : (s.cacheMember new).guilds = s.guilds := by rw [rest_cacheMember]
    split
    · exact ⟨kept ▸ cached, member?_cacheMember s new⟩
    · rw [members_countJoin]
      exact ⟨mem_guilds_countJoin (kept ▸ cached), member?_cacheMember s new⟩
  obtain ⟨cached, found⟩ := settled
  have same : t.cacheMember new = t := if_pos found
  have known : (t.members.get? ⟨a.guildId, a.member.user.id⟩).isSome = true := by
    rw [show t.members.get? ⟨a.guildId, a.member.user.id⟩ = some new from found]
    rfl
  refine ⟨_, onMemberAdd_ok.2 ⟨cached, rfl, ?_⟩⟩
  rw [if_pos known, same]

theorem onMemberUpdate_again {u : MemberUpdate} (h : s.onMemberUpdate u = .ok (t, e)) :
    ∃ e', t.onMemberUpdate u = .ok (t, e') := by
  have settled : u.guildId ∈ t.guilds ∧
      ∃ m, t.members.get? ⟨u.guildId, u.user.id⟩ = some m ∧ m.merge u = m := by
    obtain ⟨cached, ⟨old, found, rfl, -⟩ | ⟨-, rfl, -⟩⟩ := onMemberUpdate_ok.1 h
    · refine ⟨cached, old.merge u, ?_, old.merge_merge u⟩
      rw [get?_modify, if_pos rfl, found]
      rfl
    · exact ⟨cached, .ofUpdate u, get?_put_self .., MemberEntry.merge_ofUpdate u⟩
  obtain ⟨cached, m, found, fixed⟩ := settled
  have same : t.members.modify ⟨u.guildId, u.user.id⟩ (·.merge u) = t.members := by
    apply modify_eq_self
    intro d hd
    rw [found, Option.some.injEq] at hd
    exact hd ▸ fixed
  refine ⟨_, onMemberUpdate_ok.2 ⟨cached, .inl ⟨m, found, ?_, rfl⟩⟩⟩
  rw [same]

theorem onMembersChunk_again (own : s.Ownership) {c : MembersChunk} (h : s.onMembersChunk c = .ok (t, e)) :
    ∃ e', t.onMembersChunk c = .ok (t, e') := by
  have own' := own.onMembersChunk h
  have cached := (onMembersChunk_ok.1 h).1
  obtain ⟨e', same⟩ := onMembersChunk_eq own cached
  obtain ⟨rfl, -⟩ := Prod.mk.inj (Except.ok.inj (h.symm.trans same))
  obtain ⟨e', again⟩ := onMembersChunk_eq own' cached
  rw [takeChunk_takeChunk own cached] at again
  exact ⟨e', again⟩

theorem onPresenceUpdate_again (own : s.Ownership) {u : PresenceUpdate}
    (h : s.onPresenceUpdate u = .ok (t, e)) : ∃ e', t.onPresenceUpdate u = .ok (t, e') := by
  have own' := own.onPresenceUpdate h
  obtain ⟨g, home, cached, rfl, -⟩ := onPresenceUpdate_ok.1 h
  refine ⟨_, onPresenceUpdate_ok.2 ⟨g, home, cached, ?_, rfl⟩⟩
  rw [mergePresence_eq own] at own' ⊢
  have same := foldl_amend_again [u] (repeatable_merged g) ((own.presences.mem_lists g).2 cached)
  rw [mergePresence_eq own']
  exact congrArg (fun presences => { s with presences }) same.symm

theorem onEmojisUpdate_again {u : EmojiSet} (h : s.onEmojisUpdate u = .ok (t, e)) :
    ∃ e', t.onEmojisUpdate u = .ok (t, e') := by
  obtain ⟨cached, rfl⟩ := onEmojisUpdate_ok.1 ⟨e, h⟩
  refine onEmojisUpdate_ok.2 ⟨cached, ?_⟩
  rw [refill_refill]

theorem onVoiceStateUpdate_again (own : s.Ownership) {v : VoiceState}
    (h : s.onVoiceStateUpdate v = .ok (t, e)) : ∃ e', t.onVoiceStateUpdate v = .ok (t, e') := by
  obtain ⟨g, home, cached, rfl, -⟩ := onVoiceStateUpdate_ok.1 h
  refine ⟨_, onVoiceStateUpdate_ok.2 ⟨g, home, ?_, ?_, rfl⟩⟩
  · rw [putVoiceState_eq]
    exact cached
  · rw [putVoiceState_eq, putVoiceState_eq, assign_assign _ ((own.voiceStates.mem_lists g).2 cached)]

/-- What was accepted once is accepted again, and changes nothing then. -/
theorem update_again (own : s.Ownership) {d : Dispatch} (h : s.update d = .ok (t, e)) :
    ∃ e', t.update d = .ok (t, e') := by
  have settled {f : Store → Store × Event} (accepted : (.ok (f s) : Update) = .ok (t, e))
      (again : (f (f s).1).1 = (f s).1) : ∃ e', (.ok (f t) : Update) = .ok (t, e') := by
    have first : (f s).1 = t := congrArg Prod.fst (Except.ok.inj accepted)
    rw [first] at again
    exact ⟨(f t).2, congrArg Except.ok (Prod.ext again rfl)⟩
  cases d with
  | channelCreate c => exact onChannelCreate_again own h
  | channelDelete c => exact settled (f := (·.onChannelDelete c)) h (deleteChannel_deleteChannel s c.id)
  | channelUpdate u => exact onChannelUpdate_again h
  | guildCreate g => exact settled (f := (·.onGuildCreate g)) h (onGuildCreate_again own g)
  | guildDelete n => exact settled (f := (·.onGuildDelete n)) h (onGuildDelete_again own n)
  | emojisUpdate u => exact onEmojisUpdate_again h
  | guildUpdate u => exact onGuildUpdate_again h
  | memberAdd a => exact onMemberAdd_again h
  | membersChunk c => exact onMembersChunk_again own h
  | memberRemove r => exact settled (f := (·.onMemberRemove r)) h (onMemberRemove_again s r)
  | memberUpdate u => exact onMemberUpdate_again h
  | presenceUpdate u => exact onPresenceUpdate_again own h
  | ready r => exact settled (f := (·.onReady r)) h (onReady_again own r)
  | roleCreate r => exact onRoleCreate_again own h
  | roleDelete r => exact settled (f := (·.onRoleDelete r)) h (onRoleDelete_again s r)
  | roleUpdate r => exact onRoleUpdate_again own h
  | userUpdate u => exact settled (f := (·.onUserUpdate u)) h rfl
  | voiceStateUpdate v => exact onVoiceStateUpdate_again own h
  | unknown name payload => exact settled (f := fun s => (s, .unknown name payload)) h rfl

end Store
end GuildFeed
