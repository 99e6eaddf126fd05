import GuildFeed.Proofs.Store.Repetition
import GuildFeed.Store.PartialUpdate

namespace GuildFeed

section
variable {α β : Type}

theorem Patch.getLastD_values (u : β) (us : List β) (p : β → Patch α) (old : α) :
    ((u :: us).filterMap fun u => (p u).value?).getLastD old =
      (us.filterMap fun u => (p u).value?).getLastD ((p u).apply old) := by
  rw [List.filterMap_cons]
  cases p u with
  | value a => exact List.getLastD_cons ..
  | absent | null => rfl

theorem Patch.getLastD_given (u : β) (us : List β) (p : β → Patch α) (old : Option α) :
    ((u :: us).filterMap fun u => (p u).given?).getLastD old =
      (us.filterMap fun u => (p u).given?).getLastD ((p u).applyNullable old) := by
  rw [List.filterMap_cons]
  cases p u with
  | absent => rfl
  | null | value a => exact List.getLastD_cons ..

end

theorem GuildEntry.written_of (e : GuildEntry) (us : List GuildUpdate) :
    e.written (.of us) = us.foldl merge e := by
  induction us generalizing e with
  | nil => rfl
  | cons u us ih =>
    rw [List.foldl_cons, ← ih]
    simp only [written, merge, GuildWrites.of, Patch.getLastD_values, Patch.getLastD_given]

theorem ChannelEntry.written_of (e : ChannelEntry) (us : List ChannelUpdate) :
    e.written (.of us) = us.foldl merge e := by
  induction us generalizing e with
  | nil => rfl
  | cons u us ih =>
    rw [List.foldl_cons, ← ih]
    simp only [written, merge, ChannelWrites.of, Patch.getLastD_values, Patch.getLastD_given]

theorem MemberEntry.written_of (m : MemberEntry) (us : List MemberUpdate) :
    m.written (.of us) = us.foldl merge m := by
  induction us generalizing m with
  | nil => rfl
  | cons u us ih =>
    rw [List.foldl_cons, ← ih]
    simp only [written, merge, MemberWrites.of, Patch.getLastD_values, Patch.getLastD_given, List.map_cons,
      List.getLastD_cons]

theorem PresenceEntry.written_of (p : PresenceEntry) (us : List PresenceUpdate) :
    p.written (.of us) = us.foldl merge p := by
  induction us generalizing p with
  | nil => rfl
  | cons u us ih =>
    rw [List.foldl_cons, ← ih]
    simp only [written, merge, Presence.merge, PresenceWrites.of, Patch.getLastD_values, Patch.getLastD_given]

/-! ## What takes the place of an entry -/

def GuildEntry.after (old : Option GuildEntry) (u : GuildUpdate) : Option GuildEntry := old.map (·.merge u)

def ChannelEntry.after (old : Option ChannelEntry) (u : ChannelUpdate) : Option ChannelEntry :=
  old.elim (ofUpdate? u) fun e => some (e.merge u)

def MemberEntry.after (old : Option MemberEntry) (u : MemberUpdate) : MemberEntry :=
  (old.getD (blank u.guildId u.user)).merge u

def PresenceEntry.after (g : GuildId) (old : Option PresenceEntry) (u : PresenceUpdate) : PresenceEntry :=
  (old.getD (.start g u.user.id)).merge u

theorem MemberEntry.ofUpdate_eq (u : MemberUpdate) : ofUpdate u = (blank u.guildId u.user).merge u := by
  simp only [ofUpdate, merge, blank, mk.injEq, true_and]
  refine ⟨?_, ?_, ?_, ?_, ?_⟩
  · cases u.nick <;> rfl
  · cases u.roles <;> rfl
  · cases u.joinedAt <;> rfl
  · cases u.deaf <;> rfl
  · cases u.mute <;> rfl

theorem ChannelEntry.after_none {u : ChannelUpdate} {e : ChannelEntry} (first : after none u = some e) :
    e.id = u.id ∧ ∃ kind, u.kind.value? = some kind := by
  obtain ⟨kind, given, rfl⟩ := Option.map_eq_some_iff.1 first
  exact ⟨rfl, kind, given⟩

namespace Shelf
variable {κ ι α : Type} [Ord κ] [Std.TransOrd κ] [Std.LawfulEqOrd κ]
  [Ord ι] [Std.TransOrd ι] [Std.LawfulEqOrd ι] [Listed κ ι]

theorem modify_eq_put [DecidableEq κ] {s : Shelf κ α} {owner : Option GuildId} {k : κ} {a : α} {f : α → α}
    (found : s.get? k = some a) (listed : ∀ g, owner = some g → s.isListed g k = true) :
    s.modify k f = s.put owner k (f a) := by
  apply ext_get?
  · intro l
    rw [get?_modify, get?_put]
    split
    · next same => rw [← same, found, Option.map_some]
    · rfl
  · intro h
    change s.lists[h]? = (s.enlist owner k).lists[h]?
    rw [enlist_eq_self listed]

end Shelf

namespace Store
open GuildFeed.Shelf

variable {s t : Store} {e : Event}

def replaceGuild (s : Store) (g : GuildId) (e : GuildEntry) : Store := { s with guilds := s.guilds.insert g e }

theorem guild?_replaceGuild (s : Store) (g h : GuildId) (e : GuildEntry) :
    (s.replaceGuild g e).guild? h = if g = h then some e else s.guild? h := by
  simp only [replaceGuild, guild?, Std.ExtTreeMap.getElem?_insert, Std.LawfulEqCmp.compare_eq_iff_eq]

theorem merge_channel (own : s.Ownership) {c : ChannelId} {old : ChannelEntry}
    (found : s.channels.get? c = some old) (u : ChannelUpdate) :
    { s with channels := s.channels.modify c (·.merge u) } = s.putChannel (old.merge u) := by
  have key : old.id = c := own.channels.key_eq found
  have place : (old.merge u).id = c := key
  rw [putChannel, place, modify_eq_put found fun g owner => own.channels.listed found owner]
  rfl

theorem merge_member (own : s.Ownership) {id : MemberId} {old : MemberEntry} {u : MemberUpdate}
    (found : s.members.get? id = some old) (same : u.id = id) :
    { s with members := s.members.modify id (·.merge u) } = s.putMember (old.merge u) := by
  have key : old.id = id := own.members.key_eq found
  have user : u.user.id = old.user.id := congrArg MemberId.user (same.trans key.symm)
  have place : (old.merge u).id = id := (congrArg (MemberId.mk old.guildId) user).trans key
  rw [putMember, place, modify_eq_put found fun g owner => own.members.listed found owner]
  rfl

theorem guildUpdate_ok {u : GuildUpdate} : (∃ e, s.onGuildUpdate u = .ok (t, e)) ↔
    ∃ old, s.guild? u.id = some old ∧ t = s.replaceGuild u.id (old.merge u) := by
  simp only [onGuildUpdate_ok, replaceGuild]
  exact ⟨fun ⟨_, old, found, place, _⟩ => ⟨old, found, place⟩, fun ⟨old, found, place⟩ => ⟨_, old, found, place, rfl⟩⟩

theorem channelUpdate_ok (own : s.Ownership) {u : ChannelUpdate} :
    (∃ e, s.onChannelUpdate u = .ok (t, e)) ↔ (∀ g, u.guildId = some g → g ∈ s.guilds) ∧
      ∃ new, ChannelEntry.after (s.channels.get? u.id) u = some new ∧ t = s.putChannel new := by
  constructor
  · rintro ⟨e, accepted⟩
    obtain ⟨cached, ⟨old, found, rfl, -⟩ | ⟨new, unseen, first, rfl, -⟩⟩ := onChannelUpdate_ok.1 accepted
    · rw [found, merge_channel own found]
      exact ⟨cached, _, rfl, rfl⟩
    · rw [unseen]
      exact ⟨cached, new, first, rfl⟩
  · rintro ⟨cached, new, place, rfl⟩
    cases found : s.channels.get? u.id with
    | none =>
      rw [found] at place
      exact ⟨_, onChannelUpdate_ok.2 ⟨cached, .inr ⟨new, found, place, rfl, rfl⟩⟩⟩
    | some old =>
      rw [found] at place
      cases place
      rw [← merge_channel own found]
      exact ⟨_, onChannelUpdate_ok.2 ⟨cached, .inl ⟨old, found, rfl, rfl⟩⟩⟩

theorem memberUpdate_ok (own : s.Ownership) {u : MemberUpdate} :
    (∃ e, s.onMemberUpdate u = .ok (t, e)) ↔
      u.guildId ∈ s.guilds ∧ t = s.putMember (.after (s.members.get? u.id) u) := by
  constructor
  · rintro ⟨e, accepted⟩
    obtain ⟨cached, ⟨old, found, rfl, -⟩ | ⟨unseen, rfl, -⟩⟩ := onMemberUpdate_ok.1 accepted
    · rw [MemberUpdate.id, found, merge_member own found rfl]
      exact ⟨cached, rfl⟩
    · rw [MemberUpdate.id, unseen, MemberEntry.ofUpdate_eq]
      exact ⟨cached, rfl⟩
  · rintro ⟨cached, rfl⟩
    cases found : s.members.get? u.id with
    | none =>
      rw [MemberEntry.after, Option.getD_none, ← MemberEntry.ofUpdate_eq]
      exact ⟨_, onMemberUpdate_ok.2 ⟨cached, .inr ⟨found, rfl, rfl⟩⟩⟩
    | some old =>
      rw [MemberEntry.after, Option.getD_some, ← merge_member own found rfl]
      exact ⟨_, onMemberUpdate_ok.2 ⟨cached, .inl ⟨old, found, rfl, rfl⟩⟩⟩

theorem presenceUpdate_ok {u : PresenceUpdate} :
    (∃ e, s.onPresenceUpdate u = .ok (t, e)) ↔ ∃ g, u.guildId = some g ∧ g ∈ s.guilds ∧
      t = s.putPresence (.after g (s.presences.get? ⟨g, u.user.id⟩) u) := by
  simp only [onPresenceUpdate_ok]
  constructor
  · rintro ⟨e, g, guild, cached, rfl, -⟩
    exact ⟨g, guild, cached, rfl⟩
  · rintro ⟨g, guild, cached, rfl⟩
    exact ⟨_, g, guild, cached, rfl, rfl⟩

/-! ## One update -/

theorem id_after_member (own : s.Ownership) (u : MemberUpdate) :
    (MemberEntry.after (s.members.get? u.id) u).id = u.id := by
  cases found : s.members.get? u.id with
  | none => rfl
  | some old =>
    have key : old.id = u.id := own.members.key_eq found
    exact congrArg (MemberId.mk · u.user.id) (congrArg MemberId.guild key)

theorem id_after_presence (own : s.Ownership) (g : GuildId) (u : PresenceUpdate) :
    (PresenceEntry.after g (s.presences.get? ⟨g, u.user.id⟩) u).id = ⟨g, u.user.id⟩ := by
  cases found : s.presences.get? ⟨g, u.user.id⟩ with
  | none => rfl
  | some old =>
    have key : old.id = ⟨g, u.user.id⟩ := own.presences.key_eq found
    exact key

theorem id_after_channel (own : s.Ownership) {u : ChannelUpdate} {new : ChannelEntry}
    (place : ChannelEntry.after (s.channels.get? u.id) u = some new) : new.id = u.id := by
  cases found : s.channels.get? u.id with
  | none =>
    rw [found] at place
    exact (ChannelEntry.after_none place).1
  | some old =>
    rw [found] at place
    cases place
    have key : old.id = u.id := own.channels.key_eq found
    exact key

variable {d : Dispatch}

theorem partial_ok (own : s.Ownership) (single : d.isPartial) (h : s.update d = .ok (t, e)) :
    (∃ u old, d = .guildUpdate u ∧ s.guild? u.id = some old ∧ t = s.replaceGuild u.id (old.merge u)) ∨
      (∃ u new, d = .channelUpdate u ∧ ChannelEntry.after (s.channels.get? u.id) u = some new ∧
        t = s.putChannel new) ∨
      (∃ u, d = .memberUpdate u ∧ t = s.putMember (.after (s.members.get? u.id) u)) ∨
      ∃ u g, d = .presenceUpdate u ∧ u.guildId = some g ∧
        t = s.putPresence (.after g (s.presences.get? ⟨g, u.user.id⟩) u) := by
  cases d <;> cases single
  case guildUpdate u =>
    obtain ⟨old, found, place⟩ := guildUpdate_ok.1 ⟨e, h⟩
    exact .inl ⟨u, old, rfl, found, place⟩
  case channelUpdate u =>
    obtain ⟨-, new, after, place⟩ := (channelUpdate_ok own).1 ⟨e, h⟩
    exact .inr (.inl ⟨u, new, rfl, after, place⟩)
  case memberUpdate u =>
    obtain ⟨-, place⟩ := (memberUpdate_ok own).1 ⟨e, h⟩
    exact .inr (.inr (.inl ⟨u, rfl, place⟩))
  case presenceUpdate u =>
    obtain ⟨g, guild, -, place⟩ := presenceUpdate_ok.1 ⟨e, h⟩
    exact .inr (.inr (.inr ⟨u, g, rfl, guild, place⟩))

theorem guild?_update (own : s.Ownership) (single : d.isPartial) (h : s.update d = .ok (t, e)) (g : GuildId) :
    t.guild? g = (d.guildUpdate? g).elim (s.guild? g) (GuildEntry.after (s.guild? g)) := by
  obtain ⟨u, old, rfl, found, rfl⟩ | ⟨u, new, rfl, -, rfl⟩ | ⟨u, rfl, rfl⟩ | ⟨u, g, rfl, -, rfl⟩ :=
    partial_ok own single h
  · rw [guild?_replaceGuild, Dispatch.guildUpdate?]
    split
    · next same =>
      rw [← same, found]
      rfl
    · rfl
  all_goals rfl

theorem channel?_update (own : s.Ownership) (single : d.isPartial) (h : s.update d = .ok (t, e)) (c : ChannelId) :
    t.channels.get? c =
      (d.channelUpdate? c).elim (s.channels.get? c) (ChannelEntry.after (s.channels.get? c)) := by
  obtain ⟨u, old, rfl, -, rfl⟩ | ⟨u, new, rfl, place, rfl⟩ | ⟨u, rfl, rfl⟩ | ⟨u, g, rfl, -, rfl⟩ :=
    partial_ok own single h
  case inr.inl =>
    rw [putChannel, get?_put, id_after_channel own place, Dispatch.channelUpdate?]
    split
    · next same =>
      rw [← same, ← place]
      rfl
    · rfl
  all_goals rfl

theorem member?_update (own : s.Ownership) (single : d.isPartial) (h : s.update d = .ok (t, e)) (id : MemberId) :
    t.members.get? id = (d.memberUpdate? id).elim (s.members.get? id)
      fun u => some (MemberEntry.after (s.members.get? id) u) := by
  obtain ⟨u, old, rfl, -, rfl⟩ | ⟨u, new, rfl, -, rfl⟩ | ⟨u, rfl, rfl⟩ | ⟨u, g, rfl, -, rfl⟩ :=
    partial_ok own single h
  case inr.inr.inl =>
    rw [putMember, get?_put, id_after_member own, Dispatch.memberUpdate?]
    split
    · next same =>
      rw [same]
      rfl
    · rfl
  all_goals rfl

theorem presence?_update (own : s.Ownership) (single : d.isPartial) (h : s.update d = .ok (t, e)) (id : MemberId) :
    t.presences.get? id = (d.presenceUpdate? id).elim (s.presences.get? id)
      fun u => some (PresenceEntry.after id.guild (s.presences.get? id) u) := by
  obtain ⟨u, old, rfl, -, rfl⟩ | ⟨u, new, rfl, -, rfl⟩ | ⟨u, rfl, rfl⟩ | ⟨u, g, rfl, guild, rfl⟩ :=
    partial_ok own single h
  case inr.inr.inr =>
    have names : u.id? = some ⟨g, u.user.id⟩ := by rw [PresenceUpdate.id?, guild]; rfl
    rw [putPresence, get?_put, id_after_presence own, Dispatch.presenceUpdate?, names]
    simp only [Option.some.injEq]
    split
    · next same =>
      subst same
      rfl
    · rfl
  all_goals rfl

/-! ## Runs of updates -/

/-- What every accepted update does to an entry, all of them do one after the other. -/
theorem look_follow {α β : Type} (look : Store → Option α) (after : Option α → β → Option α)
    {pick : Dispatch → Option β}
    (one : ∀ {s t : Store} {d : Dispatch} {e : Event}, s.Ownership → d.isPartial → s.update d = .ok (t, e) →
      look t = (pick d).elim (look s) (after (look s)))
    (own : s.Ownership) {ds : List Dispatch} (single : ∀ d ∈ ds, d.isPartial) :
    look (s.follow ds) = ((s.accepted ds).filterMap pick).foldl after (look s) := by
  induction ds generalizing s with
  | nil => rfl
  | cons d ds ih =>
    obtain ⟨first, rest⟩ := List.forall_mem_cons.1 single
    cases h : s.update d with
    | error fault =>
      have same : s.step (.dispatch d) = s := by rw [step, h]
      rw [follow_cons, same, accepted, h, ih own rest]
    | ok r =>
      obtain ⟨t, e⟩ := r
      rw [follow_cons, step_dispatch h, accepted, h, ih (own.update h) rest, one own first h, List.filterMap_cons]
      cases pick d <;> rfl

theorem id_of_memberUpdate? {id : MemberId} {u : MemberUpdate} (picked : d.memberUpdate? id = some u) : u.id = id := by
  cases d with
  | memberUpdate v =>
    rw [Dispatch.memberUpdate?] at picked
    split at picked
    · next same =>
      cases picked
      exact same
    · cases picked
  | _ => cases picked

theorem id_of_presenceUpdate? {id : MemberId} {u : PresenceUpdate} (picked : d.presenceUpdate? id = some u) :
    u.user.id = id.user := by
  cases d with
  | presenceUpdate v =>
    rw [Dispatch.presenceUpdate?] at picked
    split at picked
    · next same =>
      cases picked
      obtain ⟨g, -, rfl⟩ := Option.map_eq_some_iff.1 same
      rfl
    · cases picked
  | _ => cases picked

section
variable {ds : List Dispatch} (own : s.Ownership) (single : ∀ d ∈ ds, d.isPartial)
include own single

theorem guild?_follow (g : GuildId) : (s.follow ds).guild? g =
    ((s.accepted ds).filterMap (Dispatch.guildUpdate? g)).foldl GuildEntry.after (s.guild? g) :=
  look_follow (·.guild? g) _ (fun own single h => guild?_update own single h g) own single

theorem channel?_follow (c : ChannelId) : (s.follow ds).channels.get? c =
    ((s.accepted ds).filterMap (Dispatch.channelUpdate? c)).foldl ChannelEntry.after (s.channels.get? c) :=
  look_follow (·.channels.get? c) _ (fun own single h => channel?_update own single h c) own single

theorem member?_follow (id : MemberId) : (s.follow ds).members.get? id =
    ((s.accepted ds).filterMap (Dispatch.memberUpdate? id)).foldl (some <| .after · ·) (s.members.get? id) :=
  look_follow (·.members.get? id) _ (fun own single h => member?_update own single h id) own single

theorem presence?_follow (id : MemberId) : (s.follow ds).presences.get? id =
    ((s.accepted ds).filterMap (Dispatch.presenceUpdate? id)).foldl (some <| .after id.guild · ·)
      (s.presences.get? id) :=
  look_follow (·.presences.get? id) _ (fun own single h => presence?_update own single h id) own single

theorem guild?_written {g : GuildId} {e : GuildEntry} (found : s.guild? g = some e) :
    (s.follow ds).guild? g = some (e.written (.of ((s.accepted ds).filterMap (Dispatch.guildUpdate? g)))) := by
  rw [guild?_follow own single, found, e.written_of]
  exact List.foldl_hom some fun _ _ => rfl

theorem channel?_written {c : ChannelId} {e : ChannelEntry} (found : s.channels.get? c = some e) :
    (s.follow ds).channels.get? c =
      some (e.written (.of ((s.accepted ds).filterMap (Dispatch.channelUpdate? c)))) := by
  rw [channel?_follow own single, found, e.written_of]
  exact List.foldl_hom some fun _ _ => rfl

theorem member?_written {id : MemberId} {m : MemberEntry} (found : s.members.get? id = some m) :
    (s.follow ds).members.get? id =
      some (m.written (.of ((s.accepted ds).filterMap (Dispatch.memberUpdate? id)))) := by
  rw [member?_follow own single, found, m.written_of]
  exact List.foldl_hom some fun _ _ => rfl

theorem presence?_written {id : MemberId} {p : PresenceEntry} (found : s.presences.get? id = some p) :
    (s.follow ds).presences.get? id =
      some (p.written (.of ((s.accepted ds).filterMap (Dispatch.presenceUpdate? id)))) := by
  rw [presence?_follow own single, found, p.written_of]
  exact List.foldl_hom some fun _ _ => rfl

theorem member?_unseen {id : MemberId} {u : MemberUpdate} {us : List MemberUpdate}
    (unseen : s.members.get? id = none) (seen : (s.accepted ds).filterMap (Dispatch.memberUpdate? id) = u :: us) :
    (s.follow ds).members.get? id = some ((MemberEntry.blank id.guild u.user).written (.of (u :: us))) := by
  have mem : u ∈ (s.accepted ds).filterMap (Dispatch.memberUpdate? id) := seen ▸ List.mem_cons_self
  obtain ⟨d, -, picked⟩ := List.mem_filterMap.1 mem
  have guild : u.guildId = id.guild := congrArg MemberId.guild (id_of_memberUpdate? picked)
  rw [member?_follow own single, unseen, seen, MemberEntry.written_of, ← guild]
  exact List.foldl_hom some fun _ _ => rfl

theorem presence?_unseen {id : MemberId} {u : PresenceUpdate} {us : List PresenceUpdate}
    (unseen : s.presences.get? id = none)
    (seen : (s.accepted ds).filterMap (Dispatch.presenceUpdate? id) = u :: us) :
    (s.follow ds).presences.get? id = some ((PresenceEntry.start id.guild id.user).written (.of (u :: us))) := by
  have mem : u ∈ (s.accepted ds).filterMap (Dispatch.presenceUpdate? id) := seen ▸ List.mem_cons_self
  obtain ⟨d, -, picked⟩ := List.mem_filterMap.1 mem
  rw [presence?_follow own single, unseen, seen, PresenceEntry.written_of, ← id_of_presenceUpdate? picked]
  exact List.foldl_hom some fun _ _ => rfl

end

end Store
end GuildFeed
