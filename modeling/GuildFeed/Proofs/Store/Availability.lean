import GuildFeed.Availability
import GuildFeed.Proofs.Store.Report

namespace GuildFeed

def Availability.follow (a : Availability) : Dispatch → Availability
  | .ready r => r.listed.foldl fail a
  | .guildCreate g => if g.unavailable then a.fail g.id else a.arrive g.id
  | .guildDelete n => if n.unavailable then a.fail n.id else a.depart n.id
  | _ => a

namespace Store

variable {s t : Store} {d : Dispatch} {e : Event}

theorem hear_of_reports (reports : s.Reports t d e) (a : Availability) : a.hear e = a.follow d := by
  cases reports with
  | ready after gone => rfl
  | guildCreate up id before after => simp only [Availability.hear, Availability.follow, up, id, Bool.false_eq_true, if_false]
  | outage down before after => simp only [Availability.hear, Availability.follow, down, if_true]
  | guildDelete before after =>
    rename_i n _
    cases down : n.unavailable <;> simp [Availability.hear, Availability.follow, down]
  | _ => rfl

@[simp] theorem mem_cached_availability {g : GuildId} : g ∈ s.availability.cached ↔ g ∈ s.guilds := by
  simp [availability, Std.ExtTreeSet.mem_ofList, Std.ExtTreeMap.mem_keys]

@[simp] theorem unavailable_availability (s : Store) : s.availability.unavailable = s.unavailable := rfl

theorem availability_ext {a b : Availability} (cached : ∀ g, g ∈ a.cached ↔ g ∈ b.cached)
    (unavailable : a.unavailable = b.unavailable) : a = b := by
  have same : a.cached = b.cached := Std.ExtTreeSet.ext_mem fun {g} => cached g
  cases a
  cases b
  cases same
  cases unavailable
  rfl

theorem availability_empty : Store.empty.availability = .empty :=
  availability_ext (fun g => by simp [empty, Availability.empty]) rfl

theorem availability_congr (cached : ∀ g, g ∈ t.guilds ↔ g ∈ s.guilds) (marks : t.unavailable = s.unavailable) :
    t.availability = s.availability :=
  availability_ext (fun g => by simp [cached g]) marks

theorem mem_guilds_insert_of_cached {g : GuildId} {entry old : GuildEntry} (found : s.guild? g = some old)
    (h : GuildId) : h ∈ s.guilds.insert g entry ↔ h ∈ s.guilds := by
  rw [Std.ExtTreeMap.mem_insert, or_iff_right_iff_imp]
  intro same
  exact Std.LawfulEqCmp.eq_of_compare same ▸ mem_guilds_of_guild? found

theorem cached_withoutGuild (s : Store) (g : GuildId) :
    (s.withoutGuild g).availability = ⟨s.availability.cached.erase g, s.unavailable⟩ := by
  refine availability_ext (fun h => ?_) rfl
  rw [mem_cached_availability, Std.ExtTreeSet.mem_erase, mem_cached_availability]
  exact Std.ExtTreeMap.mem_erase

theorem availability_mark_withoutGuild (s : Store) (g : GuildId) :
    ((s.withoutGuild g).mark g).availability = s.availability.fail g :=
  congrArg (fun a => Availability.mk a.cached (s.unavailable.insert g)) (cached_withoutGuild s g)

theorem availability_unmark_withoutGuild (s : Store) (g : GuildId) :
    ((s.withoutGuild g).unmark g).availability = s.availability.depart g :=
  congrArg (fun a => Availability.mk a.cached (s.unavailable.erase g)) (cached_withoutGuild s g)

theorem availability_dropListed (s : Store) (gs : List GuildId) :
    (s.dropListed gs).availability = gs.foldl Availability.fail s.availability := by
  induction gs generalizing s with
  | nil => rfl
  | cons g gs ih =>
    rw [List.foldl_cons, ← availability_mark_withoutGuild]
    exact ih _

theorem availability_putSnapshot (own : s.Ownership) (g : Guild) :
    (s.putSnapshot g).availability = s.availability.arrive g.id := by
  rw [putSnapshot_eq own]
  refine availability_ext (fun h => ?_) rfl
  rw [mem_cached_availability, Availability.arrive, Std.ExtTreeSet.mem_insert, mem_cached_availability]
  exact Std.ExtTreeMap.mem_insert

theorem availability_countJoin (s : Store) (g : GuildId) : (s.countJoin g).availability = s.availability := by
  unfold countJoin
  split
  · rfl
  · next found => exact availability_congr (mem_guilds_insert_of_cached found) rfl

theorem availability_countLeave (s : Store) (g : GuildId) : (s.countLeave g).availability = s.availability := by
  unfold countLeave
  split
  · rfl
  · next found =>
    split
    · rfl
    · exact availability_congr (mem_guilds_insert_of_cached found) rfl

theorem availability_guildCreate (own : s.Ownership) (g : Guild) :
    (s.onGuildCreate g).1.availability = s.availability.follow (.guildCreate g) := by
  simp only [onGuildCreate, Availability.follow]
  split
  · exact availability_mark_withoutGuild s g.id
  · exact availability_putSnapshot own g

theorem availability_guildDelete (s : Store) (n : GuildNotice) :
    (s.onGuildDelete n).1.availability = s.availability.follow (.guildDelete n) := by
  simp only [onGuildDelete, Availability.follow]
  split
  · exact availability_mark_withoutGuild s n.id
  · exact availability_unmark_withoutGuild s n.id

theorem availability_memberRemove (s : Store) (r : MemberRemove) :
    (s.onMemberRemove r).1.availability = s.availability := by
  simp only [onMemberRemove]
  split
  · exact availability_countLeave _ r.guildId
  · rfl

theorem availability_roleDelete (s : Store) (r : RoleDelete) :
    (s.onRoleDelete r).1.availability = s.availability := by
  unfold onRoleDelete
  split
  · exact (congrArg availability (rest_deleteRole s r.roleId) :)
  · rfl

theorem availability_update (own : s.Ownership) (h : s.update d = .ok (t, e)) :
    t.availability = s.availability.follow d := by
  cases d with
  | ready r =>
    obtain ⟨⟩ := h
    exact availability_dropListed (s.setUser r.user) r.listed
  | guildCreate g =>
    have followed := availability_guildCreate own g
    rw [Except.ok.inj h] at followed
    exact followed
  | guildDelete n =>
    have followed := availability_guildDelete s n
    rw [Except.ok.inj h] at followed
    exact followed
  | guildUpdate u =>
    obtain ⟨old, found, rfl, -⟩ := onGuildUpdate_ok.1 h
    exact availability_congr (mem_guilds_insert_of_cached found) rfl
  | channelCreate c =>
    obtain ⟨-, rfl, -⟩ := onChannelCreate_ok.1 h
    rfl
  | channelUpdate u =>
    rcases (onChannelUpdate_ok.1 h).2 with ⟨_, -, rfl, -⟩ | ⟨_, -, -, rfl, -⟩
    · rfl
    · rfl
  | channelDelete c =>
    obtain ⟨⟩ := h
    exact (congrArg availability (rest_deleteChannel s c.id) :)
  | emojisUpdate u =>
    obtain ⟨-, rfl⟩ := onEmojisUpdate_ok.1 ⟨e, h⟩
    rfl
  | memberAdd a =>
    obtain ⟨-, -, rfl⟩ := onMemberAdd_ok.1 h
    split
    · exact (congrArg availability (rest_cacheMember s (.ofMember a.member a.guildId)) :)
    · rw [availability_countJoin, rest_cacheMember]
      rfl
  | memberUpdate u =>
    rcases (onMemberUpdate_ok.1 h).2 with ⟨_, -, rfl, -⟩ | ⟨-, rfl, -⟩
    · rfl
    · rfl
  | memberRemove r =>
    have changed : (s.onMemberRemove r).1 = t := congrArg Prod.fst (Except.ok.inj h)
    exact changed ▸ availability_memberRemove s r
  | membersChunk c =>
    obtain ⟨-, rfl, -⟩ := onMembersChunk_ok.1 h
    exact view_membersChunk availability (fun s m => (congrArg availability (rest_cacheMember s m) :))
      (fun _ _ _ => availability_congr (fun _ => Iff.rfl) rfl) c s
  | presenceUpdate u =>
    obtain ⟨_, -, -, rfl, -⟩ := onPresenceUpdate_ok.1 h
    rfl
  | roleCreate r =>
    obtain ⟨-, rfl, -⟩ := onRoleCreate_ok.1 h
    rfl
  | roleUpdate r =>
    obtain ⟨-, rfl, -⟩ := onRoleUpdate_ok.1 h
    rfl
  | roleDelete r =>
    have changed : (s.onRoleDelete r).1 = t := congrArg Prod.fst (Except.ok.inj h)
    exact changed ▸ availability_roleDelete s r
  | userUpdate u =>
    obtain ⟨⟩ := h
    rfl
  | voiceStateUpdate v =>
    obtain ⟨g, -, -, rfl, -⟩ := onVoiceStateUpdate_ok.1 h
    exact (congrArg availability (rest_putVoiceState s g v) :)
  | unknown name payload =>
    obtain ⟨⟩ := h
    rfl

theorem availability_without (s : Store) (k : EntityKey) :
    (∀ g ∈ (s.without k).availability.cached, g ∈ s.availability.cached) ∧
      (s.without k).availability.unavailable = s.availability.unavailable := by
  have same {t : Store} (eq : t.availability = s.availability) :
      (∀ g ∈ t.availability.cached, g ∈ s.availability.cached) ∧
        t.availability.unavailable = s.availability.unavailable := by
    rw [eq]
    exact ⟨fun _ mem => mem, rfl⟩
  cases k with
  | guild g =>
    rw [without, cached_withoutGuild]
    exact ⟨fun h mem => Std.ExtTreeSet.mem_of_mem_erase mem, rfl⟩
  | channel id => exact same (congrArg availability (rest_deleteChannel s id) :)
  | role id => exact same (congrArg availability (rest_deleteRole s id) :)
  | emoji id => exact same (congrArg availability (rest_deleteEmoji s id) :)
  | _ => exact same rfl

end Store
end GuildFeed
