import GuildFeed.Proofs.Store.PartialUpdate

namespace GuildFeed

/-! ## Entries -/

section
variable {α : Type} {p q : Patch α}

theorem Patch.Apart.apply_comm (apart : p.Apart q) (old : α) : q.apply (p.apply old) = p.apply (q.apply old) := by
  cases p <;> cases q <;> first | rfl | simp [Apart, value?] at apart

theorem Patch.ApartNullable.apply_comm (apart : p.ApartNullable q) (old : Option α) :
    q.applyNullable (p.applyNullable old) = p.applyNullable (q.applyNullable old) := by
  cases p <;> cases q <;> first | rfl | simp [ApartNullable, given?] at apart

end

theorem GuildEntry.merge_comm {u v : GuildUpdate} (apart : u.Apart v) (e : GuildEntry) :
    (e.merge u).merge v = (e.merge v).merge u := by
  simp only [merge, apart.name.apply_comm, apart.ownerId.apply_comm, apart.icon.apply_comm,
    apart.description.apply_comm]

theorem ChannelEntry.merge_comm {u v : ChannelUpdate} (apart : u.Apart v) (e : ChannelEntry) :
    (e.merge u).merge v = (e.merge v).merge u := by
  simp only [merge, apart.kind.apply_comm, apart.name.apply_comm, apart.position.apply_comm,
    apart.parentId.apply_comm, apart.topic.apply_comm, apart.nsfw.apply_comm]

theorem MemberEntry.merge_comm {u v : MemberUpdate} (apart : u.Apart v) (m : MemberEntry) :
    (m.merge u).merge v = (m.merge v).merge u := by
  simp only [merge, apart.user, apart.nick.apply_comm, apart.roles.apply_comm, apart.joinedAt.apply_comm,
    apart.deaf.apply_comm, apart.mute.apply_comm]

theorem PresenceEntry.merge_comm {u v : PresenceUpdate} (apart : u.Apart v) (p : PresenceEntry) :
    (p.merge u).merge v = (p.merge v).merge u := by
  simp only [merge, Presence.merge, apart.status.apply_comm, apart.activity.apply_comm]

/-! ## Shelves -/

namespace Shelf

set_option linter.unusedSectionVars false

variable {κ ι α : Type} [Ord κ] [Std.TransOrd κ] [Std.LawfulEqOrd κ]
  [Ord ι] [Std.TransOrd ι] [Std.LawfulEqOrd ι] [Listed κ ι]

def entered (owner : Option GuildId) (k : κ) (g : GuildId) (l : Std.ExtTreeSet ι) : Std.ExtTreeSet ι :=
  if owner = some g then ((Listed.id? g k).map l.insert).getD l else l

theorem mem_entered {owner : Option GuildId} {k : κ} {g : GuildId} {l : Std.ExtTreeSet ι} {i : ι} :
    i ∈ entered owner k g l ↔ i ∈ l ∨ owner = some g ∧ Listed.id? g k = some i := by
  unfold entered
  split
  · next owned =>
    cases Listed.id? g k with
    | none => simp
    | some j => simp [owned, Std.ExtTreeSet.mem_insert, or_comm]
  · next other => simp [other]

theorem getElem?_enlist (s : Shelf κ α) (owner : Option GuildId) (k : κ) (g : GuildId) :
    (s.enlist owner k).lists[g]? = (s.lists[g]?).map (entered owner k g) := by
  unfold enlist entered
  split
  · next h i hb =>
    obtain ⟨rfl, hi⟩ := bind_id?_eq_some_iff.1 hb
    rw [getElem?_modify_list]
    by_cases here : h = g
    · subst here
      simp [hi]
    · simp [here]
  · next hb =>
    cases owner with
    | none => simp
    | some h =>
      by_cases here : h = g
      · subst here
        have unnamed : Listed.id? h k = none := by
          cases named : Listed.id? h k with
          | none => rfl
          | some i =>
            rw [bind_id?_eq_some_iff.2 ⟨rfl, named⟩] at hb
            cases hb
        simp [unnamed]
      · simp [here]

theorem put_comm [DecidableEq κ] (s : Shelf κ α) {o o' : Option GuildId} {k k' : κ} {a a' : α} (other : k ≠ k') :
    (s.put o k a).put o' k' a' = (s.put o' k' a').put o k a := by
  apply ext_get?
  · intro l
    simp only [get?_put]
    split_ifs with there here
    · exact absurd (here.trans there.symm) other
    all_goals rfl
  · intro g
    have order (l : Std.ExtTreeSet ι) : entered o' k' g (entered o k g l) = entered o k g (entered o' k' g l) :=
      Std.ExtTreeSet.ext_mem fun i => by simp only [mem_entered, or_right_comm]
    change ((s.put o k a).enlist o' k').lists[g]? = ((s.put o' k' a').enlist o k).lists[g]?
    rw [getElem?_enlist, getElem?_enlist]
    change ((s.enlist o k).lists[g]?).map _ = ((s.enlist o' k').lists[g]?).map _
    rw [getElem?_enlist, getElem?_enlist, Option.map_map, Option.map_map]
    exact congrArg (Option.map · _) (funext order)

theorem put_put [DecidableEq κ] (s : Shelf κ α) (o : Option GuildId) (k : κ) (a b : α) :
    (s.put o k a).put o k b = s.put o k b := by
  apply ext_get?
  · intro l
    simp only [get?_put]
    split_ifs <;> rfl
  · intro g
    have twice (l : Std.ExtTreeSet ι) : entered o k g (entered o k g l) = entered o k g l :=
      Std.ExtTreeSet.ext_mem fun i => by simp only [mem_entered, or_assoc, or_self]
    change ((s.put o k a).enlist o k).lists[g]? = (s.enlist o k).lists[g]?
    rw [getElem?_enlist, getElem?_enlist]
    change ((s.enlist o k).lists[g]?).map _ = _
    rw [getElem?_enlist, Option.map_map]
    exact congrArg (Option.map · _) (funext twice)

end Shelf

/-! ## Stores -/

namespace Store
open GuildFeed.Shelf

variable {s t t' : Store} {e e' : Event}

/-- After either of two dispatches the other is accepted, and both ways lead to one store. -/
def Joins (t t' : Store) (d d' : Dispatch) : Prop :=
  ∃ r, (∃ f, t.update d' = .ok (r, f)) ∧ ∃ f, t'.update d = .ok (r, f)

theorem Joins.symm {d d' : Dispatch} : Joins t t' d d' → Joins t' t d' d
  | ⟨r, first, second⟩ => ⟨r, second, first⟩

theorem replaceGuild_replaceGuild (s : Store) (g : GuildId) (a b : GuildEntry) :
    (s.replaceGuild g a).replaceGuild g b = s.replaceGuild g b := by
  have same : (s.guilds.insert g a).insert g b = s.guilds.insert g b := by
    apply Std.ExtTreeMap.ext_getElem?
    intro h
    simp only [Std.ExtTreeMap.getElem?_insert]
    split_ifs <;> rfl
  simp only [replaceGuild, same]

theorem replaceGuild_comm (s : Store) {g h : GuildId} (other : g ≠ h) (a b : GuildEntry) :
    (s.replaceGuild g a).replaceGuild h b = (s.replaceGuild h b).replaceGuild g a := by
  have same : (s.guilds.insert g a).insert h b = (s.guilds.insert h b).insert g a := by
    apply Std.ExtTreeMap.ext_getElem?
    intro i
    simp only [Std.ExtTreeMap.getElem?_insert, Std.LawfulEqCmp.compare_eq_iff_eq]
    split_ifs with there here
    · exact absurd (here.trans there.symm) other
    all_goals rfl
  simp only [replaceGuild, same]

theorem putChannel_putChannel {c d : ChannelEntry} (key : c.id = d.id) (owner : c.guildId = d.guildId) :
    (s.putChannel c).putChannel d = s.putChannel d := by
  simp only [putChannel, key, owner, put_put]

theorem putChannel_comm {c d : ChannelEntry} (other : c.id ≠ d.id) :
    (s.putChannel c).putChannel d = (s.putChannel d).putChannel c := by
  simp only [putChannel, put_comm _ other]

theorem putMember_putMember {m n : MemberEntry} (key : m.id = n.id) :
    (s.putMember m).putMember n = s.putMember n := by
  have owner : m.guildId = n.guildId := congrArg MemberId.guild key
  simp only [putMember, key, owner, put_put]

theorem putMember_comm {m n : MemberEntry} (other : m.id ≠ n.id) :
    (s.putMember m).putMember n = (s.putMember n).putMember m := by
  simp only [putMember, put_comm _ other]

theorem putPresence_putPresence {p q : PresenceEntry} (key : p.id = q.id) :
    (s.putPresence p).putPresence q = s.putPresence q := by
  have owner : p.guildId = q.guildId := congrArg MemberId.guild key
  simp only [putPresence, key, owner, put_put]

theorem putPresence_comm {p q : PresenceEntry} (other : p.id ≠ q.id) :
    (s.putPresence p).putPresence q = (s.putPresence q).putPresence p := by
  simp only [putPresence, put_comm _ other]

theorem joins_guilds {u v : GuildUpdate} (apart : u.id = v.id → u.Apart v) (h : s.onGuildUpdate u = .ok (t, e))
    (h' : s.onGuildUpdate v = .ok (t', e')) : Joins t t' (.guildUpdate u) (.guildUpdate v) := by
  obtain ⟨old, found, rfl⟩ := guildUpdate_ok.1 ⟨e, h⟩
  obtain ⟨old', found', rfl⟩ := guildUpdate_ok.1 ⟨e', h'⟩
  by_cases same : u.id = v.id
  · rw [same, found', Option.some.injEq] at found
    subst found
    have after := (s.guild?_replaceGuild u.id v.id (old'.merge u)).trans (if_pos same)
    have after' := (s.guild?_replaceGuild v.id u.id (old'.merge v)).trans (if_pos same.symm)
    refine ⟨_, guildUpdate_ok.2 ⟨_, after, rfl⟩, guildUpdate_ok.2 ⟨_, after', ?_⟩⟩
    rw [same, replaceGuild_replaceGuild, replaceGuild_replaceGuild, GuildEntry.merge_comm (apart same)]
  · have after := (s.guild?_replaceGuild u.id v.id (old.merge u)).trans (if_neg same)
    have after' := (s.guild?_replaceGuild v.id u.id (old'.merge v)).trans (if_neg (Ne.symm same))
    refine ⟨_, guildUpdate_ok.2 ⟨_, after.trans found', rfl⟩, guildUpdate_ok.2 ⟨_, after'.trans found, ?_⟩⟩
    exact replaceGuild_comm s same ..

theorem joins_channels (own : s.Ownership) {u v : ChannelUpdate} (apart : u.id = v.id → u.Apart v)
    (h : s.onChannelUpdate u = .ok (t, e)) (h' : s.onChannelUpdate v = .ok (t', e')) :
    Joins t t' (.channelUpdate u) (.channelUpdate v) := by
  have own₁ := own.onChannelUpdate h
  have own₂ := own.onChannelUpdate h'
  obtain ⟨cached, new, place, rfl⟩ := (channelUpdate_ok own).1 ⟨e, h⟩
  obtain ⟨cached', new', place', rfl⟩ := (channelUpdate_ok own).1 ⟨e', h'⟩
  have key := id_after_channel own place
  have key' := id_after_channel own place'
  have look (c : ChannelEntry) (id : ChannelId) : (s.putChannel c).channels.get? id =
      if c.id = id then some c else s.channels.get? id := get?_put ..
  by_cases same : u.id = v.id
  · have apart := apart same
    have after := (look new v.id).trans (if_pos (key.trans same))
    have after' := (look new' u.id).trans (if_pos (key'.trans same.symm))
    cases found : s.channels.get? u.id with
    | none =>
      -- then both tell the kind, and both write to it
      rw [found] at place
      rw [← same, found] at place'
      obtain ⟨-, kind, tells⟩ := ChannelEntry.after_none place
      obtain ⟨-, kind', tells'⟩ := ChannelEntry.after_none place'
      rcases apart.kind with silent | silent
      · rw [tells] at silent
        cases silent
      · rw [tells'] at silent
        cases silent
    | some old =>
      rw [found] at place
      rw [← same, found] at place'
      cases place
      cases place'
      refine ⟨_, (channelUpdate_ok own₁).2 ⟨cached', (old.merge u).merge v, ?_, rfl⟩,
        (channelUpdate_ok own₂).2 ⟨cached, (old.merge v).merge u, ?_, ?_⟩⟩
      · rw [after]
        rfl
      · rw [after']
        rfl
      · rw [putChannel_putChannel, putChannel_putChannel, ChannelEntry.merge_comm apart]
        all_goals rfl
  · have after := (look new v.id).trans (if_neg (by rwa [key]))
    have after' := (look new' u.id).trans (if_neg (by rw [key']; exact Ne.symm same))
    refine ⟨_, (channelUpdate_ok own₁).2 ⟨cached', new', after ▸ place', rfl⟩,
      (channelUpdate_ok own₂).2 ⟨cached, new, after' ▸ place, ?_⟩⟩
    exact putChannel_comm (by rwa [key, key'])

theorem joins_members (own : s.Ownership) {u v : MemberUpdate} (apart : u.id = v.id → u.Apart v)
    (h : s.onMemberUpdate u = .ok (t, e)) (h' : s.onMemberUpdate v = .ok (t', e')) :
    Joins t t' (.memberUpdate u) (.memberUpdate v) := by
  have own₁ := own.onMemberUpdate h
  have own₂ := own.onMemberUpdate h'
  obtain ⟨cached, rfl⟩ := (memberUpdate_ok own).1 ⟨e, h⟩
  obtain ⟨cached', rfl⟩ := (memberUpdate_ok own).1 ⟨e', h'⟩
  have key := id_after_member own u
  have key' := id_after_member own v
  have look (m : MemberEntry) (id : MemberId) : (s.putMember m).members.get? id =
      if m.id = id then some m else s.members.get? id := get?_put ..
  have second := id_after_member own₁ v
  have second' := id_after_member own₂ u
  refine ⟨_, (memberUpdate_ok own₁).2 ⟨cached', rfl⟩, (memberUpdate_ok own₂).2 ⟨cached, ?_⟩⟩
  rw [look, key] at second ⊢
  rw [look, key'] at second' ⊢
  by_cases same : u.id = v.id
  · have apart := apart same
    have guild : u.guildId = v.guildId := congrArg MemberId.guild same
    rw [if_pos same] at second ⊢
    rw [if_pos same.symm] at second' ⊢
    rw [putMember_putMember (key.trans (same.trans second.symm)),
      putMember_putMember (key'.trans (same.symm.trans second'.symm))]
    simp only [MemberEntry.after, Option.getD_some, same, guild, apart.user, MemberEntry.merge_comm apart]
  · rw [if_neg same, if_neg (Ne.symm same)]
    exact putMember_comm (by rwa [key, key'])

theorem joins_presences (own : s.Ownership) {u v : PresenceUpdate} (apart : u.id? = v.id? → u.Apart v)
    (h : s.onPresenceUpdate u = .ok (t, e)) (h' : s.onPresenceUpdate v = .ok (t', e')) :
    Joins t t' (.presenceUpdate u) (.presenceUpdate v) := by
  have own₁ := own.onPresenceUpdate h
  have own₂ := own.onPresenceUpdate h'
  obtain ⟨g, guild, cached, rfl⟩ := presenceUpdate_ok.1 ⟨e, h⟩
  obtain ⟨g', guild', cached', rfl⟩ := presenceUpdate_ok.1 ⟨e', h'⟩
  have key := id_after_presence own g u
  have key' := id_after_presence own g' v
  have look (p : PresenceEntry) (id : MemberId) : (s.putPresence p).presences.get? id =
      if p.id = id then some p else s.presences.get? id := get?_put ..
  have second := id_after_presence own₁ g' v
  have second' := id_after_presence own₂ g u
  refine ⟨_, presenceUpdate_ok.2 ⟨g', guild', cached', rfl⟩, presenceUpdate_ok.2 ⟨g, guild, cached, ?_⟩⟩
  rw [look, key] at second ⊢
  rw [look, key'] at second' ⊢
  by_cases same : (⟨g, u.user.id⟩ : MemberId) = ⟨g', v.user.id⟩
  · obtain ⟨rfl, user⟩ := MemberId.mk.inj same
    have apart := apart (by rw [PresenceUpdate.id?, PresenceUpdate.id?, guild, guild', user])
    rw [if_pos same] at second ⊢
    rw [if_pos same.symm] at second' ⊢
    rw [putPresence_putPresence (key.trans (same.trans second.symm)),
      putPresence_putPresence (key'.trans (same.symm.trans second'.symm))]
    simp only [PresenceEntry.after, Option.getD_some, user, PresenceEntry.merge_comm apart]
  · rw [if_neg same, if_neg (Ne.symm same)]
    exact putPresence_comm (by rwa [key, key'])

theorem mem_guilds_replaceGuild {g h : GuildId} {a : GuildEntry} (cached : h ∈ s.guilds) :
    h ∈ (s.replaceGuild g a).guilds :=
  Std.ExtTreeMap.mem_insert.2 (.inr cached)

theorem joins_guild_channel (own : s.Ownership) {u : GuildUpdate} {v : ChannelUpdate}
    (h : s.onGuildUpdate u = .ok (t, e)) (h' : s.onChannelUpdate v = .ok (t', e')) :
    Joins t t' (.guildUpdate u) (.channelUpdate v) := by
  have own₁ := own.onGuildUpdate h
  obtain ⟨old, found, rfl⟩ := guildUpdate_ok.1 ⟨e, h⟩
  obtain ⟨cached, new, place, rfl⟩ := (channelUpdate_ok own).1 ⟨e', h'⟩
  exact ⟨_, (channelUpdate_ok own₁).2 ⟨fun g named => mem_guilds_replaceGuild (cached g named), new, place, rfl⟩,
    guildUpdate_ok.2 ⟨old, found, rfl⟩⟩

theorem joins_guild_member (own : s.Ownership) {u : GuildUpdate} {v : MemberUpdate}
    (h : s.onGuildUpdate u = .ok (t, e)) (h' : s.onMemberUpdate v = .ok (t', e')) :
    Joins t t' (.guildUpdate u) (.memberUpdate v) := by
  have own₁ := own.onGuildUpdate h
  obtain ⟨old, found, rfl⟩ := guildUpdate_ok.1 ⟨e, h⟩
  obtain ⟨cached, rfl⟩ := (memberUpdate_ok own).1 ⟨e', h'⟩
  exact ⟨_, (memberUpdate_ok own₁).2 ⟨mem_guilds_replaceGuild cached, rfl⟩, guildUpdate_ok.2 ⟨old, found, rfl⟩⟩

theorem joins_guild_presence {u : GuildUpdate} {v : PresenceUpdate}
    (h : s.onGuildUpdate u = .ok (t, e)) (h' : s.onPresenceUpdate v = .ok (t', e')) :
    Joins t t' (.guildUpdate u) (.presenceUpdate v) := by
  obtain ⟨old, found, rfl⟩ := guildUpdate_ok.1 ⟨e, h⟩
  obtain ⟨g, guild, cached, rfl⟩ := presenceUpdate_ok.1 ⟨e', h'⟩
  exact ⟨_, presenceUpdate_ok.2 ⟨g, guild, mem_guilds_replaceGuild cached, rfl⟩,
    guildUpdate_ok.2 ⟨old, found, rfl⟩⟩

theorem joins_channel_member (own : s.Ownership) {u : ChannelUpdate} {v : MemberUpdate}
    (h : s.onChannelUpdate u = .ok (t, e)) (h' : s.onMemberUpdate v = .ok (t', e')) :
    Joins t t' (.channelUpdate u) (.memberUpdate v) := by
  have own₁ := own.onChannelUpdate h
  have own₂ := own.onMemberUpdate h'
  obtain ⟨cached, new, place, rfl⟩ := (channelUpdate_ok own).1 ⟨e, h⟩
  obtain ⟨cached', rfl⟩ := (memberUpdate_ok own).1 ⟨e', h'⟩
  exact ⟨_, (memberUpdate_ok own₁).2 ⟨cached', rfl⟩, (channelUpdate_ok own₂).2 ⟨cached, new, place, rfl⟩⟩

theorem joins_channel_presence (own : s.Ownership) {u : ChannelUpdate} {v : PresenceUpdate}
    (h : s.onChannelUpdate u = .ok (t, e)) (h' : s.onPresenceUpdate v = .ok (t', e')) :
    Joins t t' (.channelUpdate u) (.presenceUpdate v) := by
  have own₂ := own.onPresenceUpdate h'
  obtain ⟨cached, new, place, rfl⟩ := (channelUpdate_ok own).1 ⟨e, h⟩
  obtain ⟨g, guild, cached', rfl⟩ := presenceUpdate_ok.1 ⟨e', h'⟩
  exact ⟨_, presenceUpdate_ok.2 ⟨g, guild, cached', rfl⟩, (channelUpdate_ok own₂).2 ⟨cached, new, place, rfl⟩⟩

theorem joins_member_presence (own : s.Ownership) {u : MemberUpdate} {v : PresenceUpdate}
    (h : s.onMemberUpdate u = .ok (t, e)) (h' : s.onPresenceUpdate v = .ok (t', e')) :
    Joins t t' (.memberUpdate u) (.presenceUpdate v) := by
  have own₂ := own.onPresenceUpdate h'
  obtain ⟨cached, rfl⟩ := (memberUpdate_ok own).1 ⟨e, h⟩
  obtain ⟨g, guild, cached', rfl⟩ := presenceUpdate_ok.1 ⟨e', h'⟩
  exact ⟨_, presenceUpdate_ok.2 ⟨g, guild, cached', rfl⟩, (memberUpdate_ok own₂).2 ⟨cached, rfl⟩⟩

theorem partial_cases {d : Dispatch} (single : d.isPartial) :
    (∃ u, d = .guildUpdate u) ∨ (∃ u, d = .channelUpdate u) ∨ (∃ u, d = .memberUpdate u) ∨
      ∃ u, d = .presenceUpdate u := by
  cases d <;> cases single <;> simp

theorem joins_partial (own : s.Ownership) {d d' : Dispatch} (single : d.isPartial) (single' : d'.isPartial)
    (apart : d.Apart d') (h : s.update d = .ok (t, e)) (h' : s.update d' = .ok (t', e')) : Joins t t' d d' := by
  obtain ⟨u, rfl⟩ | ⟨u, rfl⟩ | ⟨u, rfl⟩ | ⟨u, rfl⟩ := partial_cases single
  · obtain ⟨v, rfl⟩ | ⟨v, rfl⟩ | ⟨v, rfl⟩ | ⟨v, rfl⟩ := partial_cases single'
    · exact joins_guilds apart h h'
    · exact joins_guild_channel own h h'
    · exact joins_guild_member own h h'
    · exact joins_guild_presence h h'
  · obtain ⟨v, rfl⟩ | ⟨v, rfl⟩ | ⟨v, rfl⟩ | ⟨v, rfl⟩ := partial_cases single'
    · exact (joins_guild_channel own h' h).symm
    · exact joins_channels own apart h h'
    · exact joins_channel_member own h h'
    · exact joins_channel_presence own h h'
  · obtain ⟨v, rfl⟩ | ⟨v, rfl⟩ | ⟨v, rfl⟩ | ⟨v, rfl⟩ := partial_cases single'
    · exact (joins_guild_member own h' h).symm
    · exact (joins_channel_member own h' h).symm
    · exact joins_members own apart h h'
    · exact joins_member_presence own h h'
  · obtain ⟨v, rfl⟩ | ⟨v, rfl⟩ | ⟨v, rfl⟩ | ⟨v, rfl⟩ := partial_cases single'
    · exact (joins_guild_presence h' h).symm
    · exact (joins_channel_presence own h' h).symm
    · exact (joins_member_presence own h' h).symm
    · exact joins_presences own apart h h'

theorem follow_pair {d d' : Dispatch} {r : Store} {f : Event} (h : s.update d = .ok (t, e))
    (after : t.update d' = .ok (r, f)) : s.follow [d, d'] = r ∧ s.accepted [d, d'] = [d, d'] := by
  constructor
  · rw [follow_cons, step_dispatch h, follow_cons, step_dispatch after]
    rfl
  · simp only [accepted, h, after]

/-- After partial updates each field of an entity holds what was last written to it, or what it held
before if nothing was, so only the order of the writes to one field counts. Updates that do not write
to one field commute. -/
theorem last_write_counts (reachable : s.Reachable) :
    (∀ ds : List Dispatch, (∀ d ∈ ds, d.isPartial) →
      (∀ g e, s.guild? g = some e → (s.follow ds).guild? g =
        some (e.written (.of ((s.accepted ds).filterMap (Dispatch.guildUpdate? g))))) ∧
      (∀ c e, s.channels.get? c = some e → (s.follow ds).channels.get? c =
        some (e.written (.of ((s.accepted ds).filterMap (Dispatch.channelUpdate? c))))) ∧
      (∀ id m, s.members.get? id = some m → (s.follow ds).members.get? id =
        some (m.written (.of ((s.accepted ds).filterMap (Dispatch.memberUpdate? id))))) ∧
      (∀ id u us, s.members.get? id = none →
        (s.accepted ds).filterMap (Dispatch.memberUpdate? id) = u :: us →
        (s.follow ds).members.get? id = some ((MemberEntry.blank id.guild u.user).written (.of (u :: us)))) ∧
      (∀ id p, s.presences.get? id = some p → (s.follow ds).presences.get? id =
        some (p.written (.of ((s.accepted ds).filterMap (Dispatch.presenceUpdate? id))))) ∧
      (∀ id u us, s.presences.get? id = none →
        (s.accepted ds).filterMap (Dispatch.presenceUpdate? id) = u :: us →
        (s.follow ds).presences.get? id =
          some ((PresenceEntry.start id.guild id.user).written (.of (u :: us))))) ∧
    (∀ d d' : Dispatch, d.isPartial → d'.isPartial → d.Apart d' →
      (∃ r, s.update d = .ok r) → (∃ r, s.update d' = .ok r) →
      s.follow [d, d'] = s.follow [d', d] ∧ s.accepted [d, d'] = [d, d'] ∧ s.accepted [d', d] = [d', d]) := by
  have own := reachable.ownership
  constructor
  · intro ds single
    exact ⟨fun _ _ => guild?_written own single, fun _ _ => channel?_written own single,
      fun _ _ => member?_written own single, fun _ _ _ => member?_unseen own single,
      fun _ _ => presence?_written own single, fun _ _ _ => presence?_unseen own single⟩
  · rintro d d' single single' apart ⟨⟨t, e⟩, h⟩ ⟨⟨t', e'⟩, h'⟩
    obtain ⟨r, ⟨f, after⟩, f', after'⟩ := joins_partial own single single' apart h h'
    obtain ⟨whole, both⟩ := follow_pair h after
    obtain ⟨whole', both'⟩ := follow_pair h' after'
    exact ⟨whole.trans whole'.symm, both, both'⟩

def redecoration : List Dispatch :=
  [.guildUpdate ⟨⟨1⟩, .value "hall", .absent, .value "bell", .absent⟩,
    .memberUpdate ⟨⟨1⟩, ⟨⟨7⟩, "amy", none, none, false⟩, .value "a", .absent, .absent, .absent, .value true⟩,
    .memberUpdate ⟨⟨2⟩, ⟨⟨7⟩, "amy", none, none, false⟩, .value "b", .absent, .absent, .absent, .absent⟩,
    .guildUpdate ⟨⟨1⟩, .null, .absent, .null, .value "quiet"⟩,
    .memberUpdate ⟨⟨1⟩, ⟨⟨7⟩, "amelia", none, none, false⟩, .null, .absent, .absent, .absent, .null⟩]

theorem last_write_counts_redecoration :
    let s := run [.dispatch (.guildCreate (.bare ⟨1⟩))]
    let rename := Dispatch.guildUpdate ⟨⟨1⟩, .value "hall", .absent, .absent, .absent⟩
    let repaint := Dispatch.guildUpdate ⟨⟨1⟩, .null, .absent, .value "bell", .absent⟩
    s.Reachable ∧ (∀ d ∈ redecoration, d.isPartial) ∧
      (s.follow redecoration).guild? ⟨1⟩ = some ⟨⟨1⟩, "hall", ⟨1⟩, none, some "quiet", 0⟩ ∧
      (s.follow redecoration).members.get? ⟨⟨1⟩, ⟨7⟩⟩ =
        some ⟨⟨1⟩, ⟨⟨7⟩, "amelia", none, none, false⟩, none, [], none, false, true⟩ ∧
      rename.Apart repaint ∧ s.follow [rename, repaint] = s.follow [repaint, rename] := by
  intro s rename repaint
  have reachable : s.Reachable := reachable_run _
  have single : ∀ d ∈ redecoration, d.isPartial := by decide
  obtain ⟨settled, commute⟩ := last_write_counts reachable
  obtain ⟨guild, -, -, unseen, -⟩ := settled redecoration single
  have found : s.guild? ⟨1⟩ = some (.ofGuild (.bare ⟨1⟩)) := by decide +kernel
  have hall := guild ⟨1⟩ _ found
  have amelia := unseen ⟨⟨1⟩, ⟨7⟩⟩
    ⟨⟨1⟩, ⟨⟨7⟩, "amy", none, none, false⟩, .value "a", .absent, .absent, .absent, .value true⟩
    [⟨⟨1⟩, ⟨⟨7⟩, "amelia", none, none, false⟩, .null, .absent, .absent, .absent, .null⟩]
    (by decide +kernel) (by decide +kernel)
  have apart : rename.Apart repaint := fun _ => ⟨.inr rfl, .inl rfl, .inl rfl, .inl rfl⟩
  have renames : ∃ r, s.update rename = .ok r := by
    simp only [rename, update, onGuildUpdate, found]
    exact ⟨_, rfl⟩
  have repaints : ∃ r, s.update repaint = .ok r := by
    simp only [repaint, update, onGuildUpdate, found]
    exact ⟨_, rfl⟩
  exact ⟨reachable, single, hall.trans (by decide +kernel), amelia.trans (by decide +kernel), apart,
    (commute rename repaint rfl rfl apart renames repaints).1⟩

end Store
end GuildFeed
