import GuildFeed.Proofs.Store.Recovery

namespace GuildFeed
namespace Shelf
open Entry

set_option linter.unusedSectionVars false

variable {κ ι α β : Type} [Ord κ] [Std.TransOrd κ] [Std.LawfulEqOrd κ] [DecidableEq κ]
  [Ord ι] [Std.TransOrd ι] [Std.LawfulEqOrd ι] [DecidableEq ι] [Listed κ ι] [Entry α κ ι]
  {s : Shelf κ α} {cached : GuildId → Prop}

theorem not_yields {k : κ} {owner : Option GuildId} :
    ¬ s.Yields k owner ↔ ∃ a g, s.get? k = some a ∧ owner? a = some g ∧ owner ≠ some g := by
  simp [Yields]

theorem yields_of_get? {k : κ} {a : α} (found : s.get? k = some a) : s.Yields k (owner? a) := by
  intro b g hb owner
  rw [found, Option.some.injEq] at hb
  exact hb ▸ owner

theorem Exact.owner (exact : s.Exact) {g : GuildId} {a : α} (mem : a ∈ s.entities g) :
    owner? a = some g := by
  obtain ⟨i, hi, found⟩ := mem_entities.1 mem
  obtain ⟨b, hb, owner⟩ := exact g _ (isListed_key.2 hi)
  rw [found, Option.some.injEq] at hb
  exact hb ▸ owner

theorem mem_entities_of_isListed {g : GuildId} {k : κ} {a : α} (listed : s.isListed g k = true)
    (found : s.get? k = some a) : a ∈ s.entities g := by
  obtain ⟨i, hi, rfl⟩ := isListed_iff.1 listed
  exact mem_entities.2 ⟨i, hi, found⟩

theorem Ownership.foreign_put (own : s.Ownership cached) {k : κ} {owner : Option GuildId} {a : α}
    (ho : owner? a = owner) (robs : ¬ s.Yields k owner) :
    ∃ g b, b ∈ (s.put owner k a).entities g ∧ owner? b ≠ some g := by
  obtain ⟨old, g, found, owned, other⟩ := not_yields.1 robs
  refine ⟨g, a, mem_entities_of_isListed (k := k) ?_ ?_, ho ▸ other⟩
  · exact isListed_put.2 (.inl (own.listed found owned))
  · rw [get?_put, if_pos rfl]

theorem Ownership.foreign_refill (own : s.Ownership cached) {g : GuildId} {id : β → ι}
    {val : β → Option α} {items : List β} (fits : Fits g id val items)
    (filled : ∀ b ∈ items, (val b).isSome = true) {b : β} (mem : b ∈ items)
    (robs : ¬ s.Yields (Listed.key g (id b)) (some g)) :
    ∃ h a, a ∈ (s.refill g id val items).entities h ∧ owner? a ≠ some h := by
  obtain ⟨old, h, found, owned, other⟩ := not_yields.1 robs
  have differ : g ≠ h := fun same => other (congrArg some same)
  obtain ⟨c, decides⟩ := exists_last? id mem
  obtain ⟨memc, -⟩ := last?_eq_some decides
  obtain ⟨a, ha⟩ := Option.isSome_iff_exists.1 (filled c memc)
  refine ⟨h, a, mem_entities_of_isListed (k := Listed.key g (id b)) ?_ ?_, ?_⟩
  · rw [isListed_refill, if_neg differ]
    exact own.listed found owned
  · rw [get?_refill, deciding?, Listed.id?_eq_some_iff.2 rfl, Option.bind_some, decides]
    exact ha
  · rw [(fits c memc a ha).2]
    exact other

theorem Exact.put_unlistMoved (exact : s.Exact) {k : κ} {owner old : Option GuildId} {a : α}
    (ho : owner? a = owner) (was : (s.get? k).bind owner? = old) :
    (Store.unlistMoved (s.put owner k a) old owner k).Exact := by
  have owned {b : α} {g : GuildId} (found : s.get? k = some b) (hb : owner? b = some g) : old = some g := by
    rw [← was, found, Option.bind_some, hb]
  unfold Store.unlistMoved
  split
  · next same => exact exact.put ho fun b g found hb => same ▸ owned found hb
  · intro g l listed
    obtain ⟨listed, left⟩ := isListed_unlist.1 listed
    rw [get?_unlist, get?_put]
    split
    · next same =>
      subst same
      rcases isListed_put.1 listed with listed | ⟨-, hg, -⟩
      · obtain ⟨b, found, hb⟩ := exact g k listed
        exact absurd ⟨owned found hb, rfl⟩ left
      · exact ⟨a, rfl, ho.trans hg⟩
    · next other =>
      rcases isListed_put.1 listed with listed | ⟨same, -⟩
      · exact exact g l listed
      · exact absurd same other

end Shelf

namespace Store

/-- Guilds list what they own and nothing else. So what one guild owns stays when another goes. -/
structure Owning (s : Store) : Prop where
  channels : ∀ g, ∀ c ∈ s.channelsOf g, c.guildId = some g
  roles : ∀ g, ∀ r ∈ s.rolesOf g, r.guildId = g
  emojis : ∀ g, ∀ e ∈ s.emojisOf g, e.guildId = g
  voiceStates : ∀ g, ∀ u ∈ s.voiceStates.ids g, (s.voiceStates.get? ⟨g, u⟩).isSome = true
  kept : ∀ g k e, s.get? k = some e → k ≠ .guild g → e.owner? ≠ some g →
    (s.removeGuild g).1.get? k = some e

/-- A command that puts nothing over an entity that another guild owns. A snapshot also must not
take back a voice state that it gave before. -/
def Spares (s : Store) : Command → Prop
  | .dispatch (.channelCreate c) =>
    (∀ g, c.guildId = some g → g ∈ s.guilds) → s.channels.Yields c.id c.guildId
  | .dispatch (.roleCreate r) => r.guildId ∈ s.guilds → s.roles.Yields r.role.id (some r.guildId)
  | .dispatch (.roleUpdate r) => r.guildId ∈ s.guilds → s.roles.Yields r.role.id (some r.guildId)
  | .dispatch (.emojisUpdate u) => u.guildId ∈ s.guilds →
    ∀ e ∈ emojiEntries u.guildId u.emojis, s.emojis.Yields e.id (some u.guildId)
  | .dispatch (.guildCreate g) => g.unavailable = false →
    (∀ c ∈ g.channels, s.channels.Yields c.id (some g.id)) ∧
      (∀ r ∈ g.roles, s.roles.Yields r.id (some g.id)) ∧
      (∀ e ∈ emojiEntries g.id g.emojis, s.emojis.Yields e.id (some g.id)) ∧
      Shelf.Steady VoiceState.userId (VoiceEntry.ofVoiceState? · g.id) g.voiceStates
  | _ => True

structure Exact (s : Store) : Prop where
  channels : s.channels.Exact
  roles : s.roles.Exact
  emojis : s.emojis.Exact
  voiceStates : s.voiceStates.Exact

-- What is deleted is taken off the list of the guild that owns it, so no other list named it.
theorem exact_deleteEmoji {s : Store} (exact : s.emojis.Exact) (id : EmojiId) : (s.deleteEmoji id).emojis.Exact := by
  unfold deleteEmoji
  split
  · exact exact
  · next e found =>
    have yields : s.emojis.Yields id (some e.guildId) := Shelf.yields_of_get? found
    exact exact.take yields

namespace Exact

variable {s t : Store} {e : Event}

theorem owning (exact : s.Exact) (own : s.Ownership) : s.Owning where
  channels g c mem := exact.channels.owner (List.mem_mergeSort.1 mem)
  roles g r mem := Option.some.inj (exact.roles.owner (List.mem_mergeSort.1 mem))
  emojis g e mem := Option.some.inj (exact.emojis.owner mem)
  voiceStates g u mem := by
    obtain ⟨v, found, -⟩ := exact.voiceStates g ⟨g, u⟩ (Shelf.isListed_key.2 mem)
    rw [found]
    rfl
  kept g k e found other foreign := by
    cases k with
    | guild h =>
      have differ : g ≠ h := fun same => other (congrArg EntityKey.guild same.symm)
      simpa [removeGuild, get?, guild?, withoutGuild, Std.ExtTreeMap.getElem?_erase, differ] using found
    | channel id =>
      obtain ⟨e, he, rfl⟩ := Option.map_eq_some_iff.1 found
      exact Option.map_eq_some_iff.2 ⟨e, exact.channels.get?_close he foreign, rfl⟩
    | role id =>
      obtain ⟨e, he, rfl⟩ := Option.map_eq_some_iff.1 found
      exact Option.map_eq_some_iff.2 ⟨e, exact.roles.get?_close he foreign, rfl⟩
    | emoji id =>
      obtain ⟨e, he, rfl⟩ := Option.map_eq_some_iff.1 found
      exact Option.map_eq_some_iff.2 ⟨e, exact.emojis.get?_close he foreign, rfl⟩
    | member id =>
      obtain ⟨e, he, rfl⟩ := Option.map_eq_some_iff.1 found
      exact Option.map_eq_some_iff.2 ⟨e, own.exact_members.get?_close he foreign, rfl⟩
    | presence id =>
      obtain ⟨e, he, rfl⟩ := Option.map_eq_some_iff.1 found
      exact Option.map_eq_some_iff.2 ⟨e, own.exact_presences.get?_close he foreign, rfl⟩
    | voiceState id =>
      obtain ⟨e, he, rfl⟩ := Option.map_eq_some_iff.1 found
      exact Option.map_eq_some_iff.2 ⟨e, exact.voiceStates.get?_close he foreign, rfl⟩

theorem empty : Store.empty.Exact := ⟨.empty, .empty, .empty, .empty⟩

theorem congr (exact : s.Exact) (channels : t.channels = s.channels) (roles : t.roles = s.roles)
    (emojis : t.emojis = s.emojis) (voiceStates : t.voiceStates = s.voiceStates) : t.Exact :=
  ⟨channels ▸ exact.channels, roles ▸ exact.roles, emojis ▸ exact.emojis, voiceStates ▸ exact.voiceStates⟩

theorem putGuild (exact : s.Exact) (e : GuildEntry) : (s.putGuild e).Exact where
  channels := exact.channels.ensure e.id
  roles := exact.roles.ensure e.id
  emojis := exact.emojis.ensure e.id
  voiceStates := exact.voiceStates.ensure e.id

theorem withoutGuild (exact : s.Exact) (g : GuildId) : (s.withoutGuild g).Exact where
  channels := exact.channels.close g
  roles := exact.roles.close g
  emojis := exact.emojis.close g
  voiceStates := exact.voiceStates.close g

theorem dropListed (exact : s.Exact) (gs : List GuildId) : (s.dropListed gs).Exact := by
  induction gs generalizing s with
  | nil => exact exact
  | cons g gs ih => exact ih ((exact.withoutGuild g).congr rfl rfl rfl rfl)

theorem countJoin (exact : s.Exact) (g : GuildId) : (s.countJoin g).Exact := by
  rw [rest_countJoin]
  exact exact.congr rfl rfl rfl rfl

theorem countLeave (exact : s.Exact) (g : GuildId) : (s.countLeave g).Exact := by
  rw [rest_countLeave]
  exact exact.congr rfl rfl rfl rfl

theorem putSnapshot (exact : s.Exact) (own : s.Ownership) {g : Guild}
    (channels : ∀ c ∈ g.channels, s.channels.Yields c.id (some g.id))
    (roles : ∀ r ∈ g.roles, s.roles.Yields r.id (some g.id))
    (emojis : ∀ e ∈ emojiEntries g.id g.emojis, s.emojis.Yields e.id (some g.id))
    (steady : Shelf.Steady VoiceState.userId (VoiceEntry.ofVoiceState? · g.id) g.voiceStates) :
    (s.putSnapshot g).Exact := by
  rw [putSnapshot_eq own]
  exact
    { channels := exact.channels.refill (fits_channels _ _) (Shelf.steady_of_isSome fun _ _ => rfl) channels
      roles := exact.roles.refill (fits_roles _ _) (Shelf.steady_of_isSome fun _ _ => rfl) roles
      emojis := exact.emojis.refill (fits_emojis _ _) (Shelf.steady_of_isSome fun _ _ => rfl) emojis
      voiceStates := exact.voiceStates.refill (fits_voiceStates _ _) steady
        fun v _ => own.yields_voiceState ⟨g.id, v.userId⟩ }

theorem deleteChannel (exact : s.Exact) (c : ChannelId) : (s.deleteChannel c).Exact := by
  unfold Store.deleteChannel
  split
  · exact exact
  · next e found =>
    have yields : s.channels.Yields c e.guildId := Shelf.yields_of_get? found
    exact { exact with channels := (exact.channels.take yields).foldl_modify _ fun _ => rfl }

theorem deleteRole (exact : s.Exact) (r : RoleId) : (s.deleteRole r).Exact := by
  unfold Store.deleteRole
  split
  · exact exact
  · next e found =>
    have yields : s.roles.Yields r (some e.guildId) := Shelf.yields_of_get? found
    exact { exact with roles := exact.roles.take yields }

theorem deleteEmoji (exact : s.Exact) (id : EmojiId) : (s.deleteEmoji id).Exact := by
  rw [rest_deleteEmoji]
  exact { exact with emojis := exact_deleteEmoji exact.emojis id }

theorem cacheMember (exact : s.Exact) (m : MemberEntry) : (s.cacheMember m).Exact := by
  rw [rest_cacheMember]
  exact exact.congr rfl rfl rfl rfl

theorem putMembers (exact : s.Exact) (g : GuildId) (ms : List Member) : (s.putMembers g ms).Exact := by
  induction ms generalizing s with
  | nil => exact exact
  | cons m ms ih => exact ih (exact.cacheMember (.ofMember m g))

theorem mergePresences (exact : s.Exact) (g : GuildId) (us : List PresenceUpdate) :
    (us.foldl (·.mergePresence g ·) s).Exact := by
  induction us generalizing s with
  | nil => exact exact
  | cons u us ih => exact ih (exact.congr rfl rfl rfl rfl)

theorem putVoiceState (exact : s.Exact) (own : s.Ownership) (g : GuildId) (v : VoiceState) :
    (s.putVoiceState g v).Exact := by
  unfold Store.putVoiceState
  split
  · next e he =>
    obtain ⟨c, -, rfl⟩ := Option.map_eq_some_iff.1 he
    exact { exact with voiceStates := exact.voiceStates.put rfl (own.yields_voiceState ⟨g, v.userId⟩) }
  · exact { exact with voiceStates := exact.voiceStates.take (own.yields_voiceState ⟨g, v.userId⟩) }

theorem insert (exact : s.Exact) (own : s.Ownership) (x : Entity) : (s.insert x).Exact := by
  cases x with
  | guild e =>
    rw [Store.insert]
    split
    · exact exact.congr rfl rfl rfl rfl
    · exact exact.putGuild e
  | channel e => exact { exact with channels := exact.channels.put_unlistMoved rfl rfl }
  | role e =>
    exact { exact with roles := exact.roles.put_unlistMoved rfl Option.map_eq_bind.symm }
  | emoji e =>
    exact { exact with emojis := exact.emojis.put_unlistMoved rfl Option.map_eq_bind.symm }
  | member e => exact exact.congr rfl rfl rfl rfl
  | presence e => exact exact.congr rfl rfl rfl rfl
  | voiceState e =>
    exact { exact with voiceStates := exact.voiceStates.put rfl (own.yields_voiceState e.id) }

theorem without (exact : s.Exact) (own : s.Ownership) (k : EntityKey) : (s.without k).Exact := by
  cases k with
  | guild g => exact exact.withoutGuild g
  | channel id => exact exact.deleteChannel id
  | role id => exact exact.deleteRole id
  | emoji id => exact exact.deleteEmoji id
  | member id => exact exact.congr rfl rfl rfl rfl
  | presence id => exact exact.congr rfl rfl rfl rfl
  | voiceState id =>
    exact { exact with voiceStates := exact.voiceStates.discard (own.yields_voiceState id) }

/-! ## Dispatches -/

theorem onGuildCreate (exact : s.Exact) (own : s.Ownership) {g : Guild}
    (spares : s.Spares (.dispatch (.guildCreate g))) : (s.onGuildCreate g).1.Exact := by
  unfold Store.onGuildCreate
  split
  · exact (exact.withoutGuild g.id).congr rfl rfl rfl rfl
  · next available =>
    obtain ⟨channels, roles, emojis, steady⟩ := spares (Bool.not_eq_true _ ▸ available)
    exact exact.putSnapshot own channels roles emojis steady

theorem onGuildDelete (exact : s.Exact) (n : GuildNotice) : (s.onGuildDelete n).1.Exact := by
  unfold Store.onGuildDelete
  split
  · exact (exact.withoutGuild n.id).congr rfl rfl rfl rfl
  · exact (exact.withoutGuild n.id).congr rfl rfl rfl rfl

theorem onChannelUpdate (exact : s.Exact) {u : ChannelUpdate} (h : s.onChannelUpdate u = .ok (t, e)) :
    t.Exact := by
  obtain ⟨-, ⟨old, -, rfl, -⟩ | ⟨new, first, named, rfl, -⟩⟩ := onChannelUpdate_ok.1 h
  · exact { exact with channels := exact.channels.modify u.id fun _ => rfl }
  · obtain ⟨kind, -, rfl⟩ := Option.map_eq_some_iff.1 named
    -- there was no channel, so nobody owned it
    have yields : s.channels.Yields u.id u.guildId := by
      intro b g hb
      rw [first] at hb
      cases hb
    exact { exact with channels := exact.channels.put rfl yields }

theorem onRoleDelete (exact : s.Exact) (r : RoleDelete) : (s.onRoleDelete r).1.Exact := by
  unfold Store.onRoleDelete
  split
  · exact exact.deleteRole r.roleId
  · exact exact

theorem onMemberAdd (exact : s.Exact) {a : MemberAdd} (h : s.onMemberAdd a = .ok (t, e)) : t.Exact := by
  obtain ⟨-, -, rfl⟩ := onMemberAdd_ok.1 h
  have rest : (s.cacheMember (.ofMember a.member a.guildId)).Exact := exact.cacheMember _
  split
  · exact rest
  · exact rest.countJoin a.guildId

theorem onMemberRemove (exact : s.Exact) (r : MemberRemove) : (s.onMemberRemove r).1.Exact := by
  have rest : ((s.deletePresence ⟨r.guildId, r.user.id⟩).deleteMember ⟨r.guildId, r.user.id⟩).Exact :=
    exact.congr rfl rfl rfl rfl
  simp only [Store.onMemberRemove]
  split
  · exact rest.countLeave r.guildId
  · exact rest

theorem onMembersChunk (exact : s.Exact) {c : MembersChunk} (h : s.onMembersChunk c = .ok (t, e)) :
    t.Exact := by
  obtain ⟨-, rfl, -⟩ := onMembersChunk_ok.1 h
  exact (exact.putMembers c.guildId c.members).mergePresences c.guildId c.presences

theorem onEmojisUpdate (exact : s.Exact) {u : EmojiSet} (spares : s.Spares (.dispatch (.emojisUpdate u)))
    (h : s.onEmojisUpdate u = .ok (t, e)) : t.Exact := by
  obtain ⟨cached, rfl⟩ := onEmojisUpdate_ok.1 ⟨e, h⟩
  have refilled := exact.emojis.refill (fits_emojis u.guildId u.emojis)
    (Shelf.steady_of_isSome fun _ _ => rfl) (spares cached)
  exact { exact with emojis := refilled }

theorem update (exact : s.Exact) (own : s.Ownership) {d : Dispatch} (spares : s.Spares (.dispatch d))
    (h : s.update d = .ok (t, e)) : t.Exact := by
  cases d with
  | channelCreate c =>
    obtain ⟨cached, rfl, -⟩ := onChannelCreate_ok.1 h
    exact { exact with channels := exact.channels.put rfl (spares cached) }
  | channelDelete c =>
    obtain ⟨⟩ := h
    exact exact.deleteChannel c.id
  | channelUpdate u => exact exact.onChannelUpdate h
  | guildCreate g =>
    have created := exact.onGuildCreate own spares
    rw [Except.ok.inj h] at created
    exact created
  | guildDelete n =>
    have deleted := exact.onGuildDelete n
    rw [Except.ok.inj h] at deleted
    exact deleted
  | emojisUpdate u => exact exact.onEmojisUpdate spares h
  | guildUpdate u =>
    obtain ⟨old, -, rfl, -⟩ := onGuildUpdate_ok.1 h
    exact exact.congr rfl rfl rfl rfl
  | memberAdd a => exact exact.onMemberAdd h
  | membersChunk c => exact exact.onMembersChunk h
  | memberRemove r =>
    have removed := exact.onMemberRemove r
    rw [Except.ok.inj h] at removed
    exact removed
  | memberUpdate u =>
    obtain ⟨-, ⟨old, -, rfl, -⟩ | ⟨-, rfl, -⟩⟩ := onMemberUpdate_ok.1 h
    · exact exact.congr rfl rfl rfl rfl
    · exact exact.congr rfl rfl rfl rfl
  | presenceUpdate u =>
    obtain ⟨g, -, -, rfl, -⟩ := onPresenceUpdate_ok.1 h
    exact exact.congr rfl rfl rfl rfl
  | ready r =>
    obtain ⟨⟩ := h
    exact (exact.congr rfl rfl rfl rfl : (s.setUser r.user).Exact).dropListed r.listed
  | roleCreate r =>
    obtain ⟨cached, rfl, -⟩ := onRoleCreate_ok.1 h
    exact { exact with roles := exact.roles.put rfl (spares cached) }
  | roleDelete r =>
    have deleted := exact.onRoleDelete r
    rw [Except.ok.inj h] at deleted
    exact deleted
  | roleUpdate r =>
    obtain ⟨cached, rfl, -⟩ := onRoleUpdate_ok.1 h
    exact { exact with roles := exact.roles.put rfl (spares cached) }
  | userUpdate u =>
    obtain ⟨⟩ := h
    exact exact.congr rfl rfl rfl rfl
  | voiceStateUpdate v =>
    obtain ⟨g, -, -, rfl, -⟩ := onVoiceStateUpdate_ok.1 h
    exact exact.putVoiceState own g v
  | unknown name payload =>
    obtain ⟨⟩ := h
    exact exact

theorem step (exact : s.Exact) (own : s.Ownership) {c : Command} (spares : s.Spares c) :
    (s.step c).Exact := by
  cases c with
  | dispatch d =>
    simp only [Store.step]
    split
    · next accepted => exact exact.update own spares accepted
    · exact exact
  | upsert x =>
    simp only [Store.step]
    split
    · next accepted =>
      obtain ⟨-, rfl, -⟩ := upsert_ok.1 accepted
      exact exact.insert own x
    · exact exact
  | remove k => exact exact.without own k
  | removeGuild g => exact exact.withoutGuild g
  | clear => exact empty

end Exact

/-! ## Commands that take from others -/

namespace Ownership

variable {s : Store} (own : s.Ownership)
include own

theorem yields_of_putChannel {c : ChannelEntry} (after : (s.putChannel c).Owning) :
    s.channels.Yields c.id c.guildId := by
  by_contra robs
  obtain ⟨g, d, mem, other⟩ := own.channels.foreign_put (a := c) rfl robs
  exact other (after.channels g d (List.mem_mergeSort.2 mem))

theorem yields_of_putRole {r : RoleEntry} (after : (s.putRole r).Owning) :
    s.roles.Yields r.id (some r.guildId) := by
  by_contra robs
  obtain ⟨g, q, mem, other⟩ := own.roles.foreign_put (a := r) rfl robs
  exact other (congrArg some (after.roles g q (List.mem_mergeSort.2 mem)))

theorem spares_emojisUpdate {u : EmojiSet} (after : (s.step (.dispatch (.emojisUpdate u))).Owning) :
    s.Spares (.dispatch (.emojisUpdate u)) := by
  intro cached x mem
  by_contra robs
  obtain ⟨g, y, listed, other⟩ :=
    own.emojis.foreign_refill (fits_emojis u.guildId u.emojis) (fun _ _ => rfl) mem robs
  obtain ⟨e, changed⟩ := onEmojisUpdate_ok.2 ⟨cached, rfl⟩
  have accepted : s.update (.emojisUpdate u) = .ok (_, e) := changed
  rw [step_dispatch accepted] at after
  exact other (congrArg some (after.emojis g y listed))

theorem spares_guildCreate {g : Guild} (after : (s.step (.dispatch (.guildCreate g))).Owning) :
    s.Spares (.dispatch (.guildCreate g)) := by
  intro available
  rw [step_dispatch (update_guildCreate s available)] at after
  have shown := own.voiceState?_putSnapshot g
  rw [putSnapshot_eq own] at after shown
  refine ⟨fun c mem => ?_, fun r mem => ?_, fun x mem => ?_, fun v mem filled => ?_⟩
  · by_contra robs
    obtain ⟨h, d, listed, other⟩ :=
      own.channels.foreign_refill (fits_channels g.id g.channels) (fun _ _ => rfl) mem robs
    exact other (after.channels h d (List.mem_mergeSort.2 listed))
  · by_contra robs
    obtain ⟨h, q, listed, other⟩ :=
      own.roles.foreign_refill (fits_roles g.id g.roles) (fun _ _ => rfl) mem robs
    exact other (congrArg some (after.roles h q (List.mem_mergeSort.2 listed)))
  · by_contra robs
    obtain ⟨h, y, listed, other⟩ :=
      own.emojis.foreign_refill (fits_emojis g.id g.emojis) (fun _ _ => rfl) mem robs
    exact other (congrArg some (after.emojis h y listed))
  · rw [funext g.ofVoiceState?_eq, ← shown v.userId]
    refine after.voiceStates g.id v.userId ?_
    rw [← Shelf.isListed_key, Shelf.isListed_refill, if_pos rfl, Shelf.names_kept]
    exact ⟨v, mem, filled, rfl⟩

theorem spares {c : Command} (after : (s.step c).Owning) : s.Spares c := by
  cases c with
  | dispatch d =>
    cases d with
    | channelCreate c =>
      intro cached
      have accepted : s.update (.channelCreate c) = .ok (_, _) := onChannelCreate_ok.2 ⟨cached, rfl, rfl⟩
      rw [step_dispatch accepted] at after
      exact own.yields_of_putChannel after
    | guildCreate g => exact own.spares_guildCreate after
    | emojisUpdate u => exact own.spares_emojisUpdate after
    | roleCreate r =>
      intro cached
      have accepted : s.update (.roleCreate r) = .ok (_, _) := onRoleCreate_ok.2 ⟨cached, rfl, rfl⟩
      rw [step_dispatch accepted] at after
      exact own.yields_of_putRole after
    | roleUpdate r =>
      intro cached
      have accepted : s.update (.roleUpdate r) = .ok (_, _) := onRoleUpdate_ok.2 ⟨cached, rfl, rfl⟩
      rw [step_dispatch accepted] at after
      exact own.yields_of_putRole after
    | _ => trivial
  | _ => trivial

end Ownership

/-! ## Histories -/

/-- Throughout a history guilds list only what they own if and only if no command of it takes
anything from another guild. -/
theorem owning_iff_spares (cs : List Command) :
    (∀ ds, ds <+: cs → (run ds).Owning) ↔ ∀ ds c, ds ++ [c] <+: cs → (run ds).Spares c := by
  constructor
  · intro owning ds c pre
    have after := owning (ds ++ [c]) pre
    rw [run_concat] at after
    exact (reachable_run ds).ownership.spares after
  · intro spares ds pre
    have exact : (run ds).Exact := by
      induction ds using List.reverseRecOn with
      | nil => exact Exact.empty
      | append_singleton ds c ih =>
        rw [run_concat]
        have before := ih ((List.prefix_append ds [c]).trans pre)
        exact before.step (reachable_run ds).ownership (spares ds c pre)
    exact exact.owning (reachable_run ds).ownership

theorem not_owning_handover : (run handover).Reachable ∧ ¬ (run handover).Owning ∧
    ((run handover).channelsOf ⟨1⟩).map (·.guildId) = [some ⟨2⟩] ∧
    ((run handover).removeGuild ⟨1⟩).1.get? (.channel ⟨10⟩) = none := by
  have listed : ChannelEntry.ofChannel (.text ⟨10⟩ (some ⟨2⟩)) none ∈ (run handover).channelsOf ⟨1⟩ := by
    decide +kernel
  refine ⟨reachable_run handover, fun owning => ?_, by decide +kernel, by decide +kernel⟩
  cases owning.channels ⟨1⟩ _ listed

end Store
end GuildFeed
