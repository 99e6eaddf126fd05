import GuildFeed.Proofs.Store.InPlace
import GuildFeed.Proofs.Store.Locality
import GuildFeed.Store.Footprint
import GuildFeed.Store.History

namespace GuildFeed.Store

variable {scope : EntityKey → Prop}

section
variable {guilds : GuildId → Prop} {keys : EmojiId → Prop} {es : List EmojiEntry}

theorem put_emoji {e : EmojiEntry} (inside : Shelf.Inside guilds keys e) :
    Shelf.Local guilds keys fun shelf : Shelf EmojiId EmojiEntry =>
      { shelf with table := shelf.table.insert e.id e } := by
  have noOwner : ∀ g, (none : Option GuildId) = some g → guilds g := nofun
  exact .put inside.key noOwner inside

theorem local_replaceEmojis (inside : ∀ e ∈ es, Shelf.Inside guilds keys e) :
    Shelf.Local guilds keys fun shelf => (replaceEmojis shelf es).1 := by
  induction es with
  | nil => exact .id
  | cons e es ih =>
    simp only [fst_replaceEmojis_cons]
    exact (put_emoji (inside e List.mem_cons_self)).comp (ih fun e mem => inside e (List.mem_cons_of_mem _ mem))

theorem snd_replaceEmojis {s t : Shelf EmojiId EmojiEntry} (inside : ∀ e ∈ es, Shelf.Inside guilds keys e)
    (tidy : s.Tidy guilds keys) (same : s.Agree guilds keys t) :
    (replaceEmojis s es).2 = (replaceEmojis t es).2 := by
  induction es generalizing s t with
  | nil => rfl
  | cons e es ih =>
    have first := inside e List.mem_cons_self
    have put := put_emoji first
    have rest := ih (fun e mem => inside e (List.mem_cons_of_mem _ mem)) (put.tidy s tidy) (put.agree s t tidy same)
    simp only [replaceEmojis, same.get? e.id first.key]
    generalize replaceEmojis { s with table := s.table.insert e.id e } es = p at rest ⊢
    obtain ⟨shelf, difference⟩ := p
    obtain rfl : difference = _ := rest
    cases t.get? e.id <;> rfl

end

namespace InPlace

variable {α β : Type}

structure Confined (scope : EntityKey → Prop) (x : InPlace α) : Prop where
  ending : Reads scope fun s => (runs x s).1
  change : Store.Local scope fun s => (runs x s).2

namespace Confined

theorem pure (a : α) : Confined scope (Pure.pure a : InPlace α) := ⟨fun _ _ _ _ => rfl, .id⟩

theorem throw (e : StoreError) : Confined scope (MonadExcept.throw e : InPlace α) := ⟨fun _ _ _ _ => rfl, .id⟩

theorem reads {f : Store → α} (h : Reads scope f) : Confined scope (InPlace.reads f) := ⟨h.map Except.ok, .id⟩

theorem changes {f : Store → Store} (h : Store.Local scope f) : Confined scope (InPlace.changes f) :=
  ⟨fun _ _ _ _ => rfl, h⟩

theorem bind {x : InPlace α} {f : α → InPlace β} (hx : Confined scope x) (hf : ∀ a, Confined scope (f a)) :
    Confined scope (x >>= f) where
  ending s t tidy same := by
    have ends := hx.ending s t tidy same
    have after := hx.change.agree s t tidy same
    have tidied := hx.change.tidy s tidy
    simp only [runs_bind] at ends after tidied ⊢
    generalize runs x s = p at ends after tidied
    generalize runs x t = q at ends after
    obtain ⟨r, s'⟩ := p
    obtain ⟨_, t'⟩ := q
    obtain rfl : r = _ := ends
    cases r with
    | error e => rfl
    | ok a => exact (hf a).ending s' t' tidied after
  change := by
    refine .depend hx.ending fun s _ => ?_
    cases (runs x s).1 with
    | error e =>
      refine ⟨_, hx.change, fun t same => ?_⟩
      rw [runs_bind]
      generalize runs x t = p at same ⊢
      obtain ⟨_, t'⟩ := p
      obtain rfl : _ = Except.error e := same
      rfl
    | ok a =>
      refine ⟨_, hx.change.comp (hf a).change, fun t same => ?_⟩
      rw [runs_bind]
      generalize runs x t = p at same ⊢
      obtain ⟨_, t'⟩ := p
      obtain rfl : _ = Except.ok a := same
      rfl

theorem require {g : GuildId} (hg : scope (.guild g)) (k : EntityKey) : Confined scope (InPlace.require g k) := by
  refine bind (reads (reads_isCached hg)) fun cached => ?_
  cases cached with
  | true => exact pure _
  | false => exact throw _

theorem ready {r : Ready} (hg : ∀ g ∈ r.listed, scope (.guild g)) : Confined scope (InPlace.ready r) :=
  bind (changes (.setUser r.user)) fun _ => bind (changes (.dropListed hg)) fun _ => pure _

theorem guildCreate {g : Guild} (within : ∀ k ∈ g.footprint, scope k) : Confined scope (InPlace.guildCreate g) := by
  have hg : scope (.guild g.id) := within _ List.mem_cons_self
  unfold InPlace.guildCreate
  cases g.unavailable with
  | true =>
    refine bind (reads (reads_holdings? hg)) fun _ => ?_
    exact bind (changes (.withoutGuild hg)) fun _ => bind (changes (.mark hg)) fun _ => pure _
  | false =>
    have entities (k : EntityKey) (mem : k ∈ g.channels.map (.channel ·.id) ++ g.roles.map (.role ·.id)
        ++ (emojiEntries g.id g.emojis).map (.emoji ·.id)) : scope k := within k (List.mem_cons_of_mem _ mem)
    have put : Store.Local scope (·.putSnapshot g) := .putSnapshot hg
      (fun c mem => entities _ (by simp [List.mem_map_of_mem, mem])) (fun r mem => entities _ (by simp; grind))
      (fun e mem => entities _ (by simp; grind))
    exact bind (reads (reads_isUnavailable hg)) fun _ => bind (changes put) fun _ => pure _

theorem guildDelete {n : GuildNotice} (hg : scope (.guild n.id)) : Confined scope (InPlace.guildDelete n) := by
  have note : Store.Local scope fun s => if n.unavailable then s.mark n.id else s.unmark n.id := by
    cases n.unavailable with
    | true => exact .mark hg
    | false => exact .unmark hg
  refine bind (reads (reads_holdings? hg)) fun _ => ?_
  exact bind (changes (.withoutGuild hg)) fun _ => bind (changes note) fun _ => pure _

theorem guildUpdate {u : GuildUpdate} (hg : scope (.guild u.id)) : Confined scope (InPlace.guildUpdate u) := by
  refine bind (reads (reads_guild? hg)) fun known => ?_
  cases known with
  | none => exact throw _
  | some old => exact bind (changes (.enter hg _ (·.guildGauge) (·.memberGauge))) fun _ => pure _

theorem channelCreate {c : Channel} (hc : scope (.channel c.id))
    (ho : ∀ g, c.guildId = some g → scope (.guild g)) : Confined scope (InPlace.channelCreate c) := by
  have put : Store.Local scope (·.putChannel (.ofChannel c none)) := .putChannel hc ho
  have owner : (ChannelEntry.ofChannel c none).guildId = c.guildId := rfl
  unfold InPlace.channelCreate
  simp only [owner]
  cases named : c.guildId with
  | none => exact bind (changes put) fun _ => pure _
  | some g => exact bind (require (ho g named) _) fun _ => bind (changes put) fun _ => pure _

theorem channelUpdate {u : ChannelUpdate} (hc : scope (.channel u.id))
    (ho : ∀ g, u.guildId = some g → scope (.guild g)) : Confined scope (InPlace.channelUpdate u) := by
  have merge : Shelf.Local (fun g => scope (.guild g)) (fun c => scope (.channel c))
      (Shelf.modify (α := ChannelEntry) · u.id (·.merge u)) := .modify hc fun _ inside => ⟨inside.key, inside.owner⟩
  unfold InPlace.channelUpdate ChannelEntry.ofUpdate?
  rcases named : u.guildId with _ | g
  on_goal 2 => refine bind (require (ho g named) _) fun _ => ?_
  all_goals
    refine bind (reads (reads_channel hc)) fun known => ?_
    cases known with
    | some old => exact bind (changes (.channels merge)) fun _ => pure _
    | none =>
      cases u.kind.value? with
      | none => exact throw _
      | some kind => exact bind (changes (.putChannel hc fun h owner => ho h (named.trans owner))) fun _ => pure _

theorem channelDelete {c : Channel} (hc : scope (.channel c.id)) : Confined scope (InPlace.channelDelete c) := by
  refine bind (reads (reads_channel hc)) fun _ => bind (reads (reads_orphans hc)) fun _ => ?_
  exact bind (changes (.deleteChannel hc)) fun _ => pure _

theorem roleCreate {r : GuildRole} (hg : scope (.guild r.guildId)) (hr : scope (.role r.role.id)) :
    Confined scope (InPlace.roleCreate r) :=
  bind (require hg _) fun _ => bind (changes (.putRole hr hg)) fun _ => pure _

theorem roleUpdate {r : GuildRole} (hg : scope (.guild r.guildId)) (hr : scope (.role r.role.id)) :
    Confined scope (InPlace.roleUpdate r) := by
  refine bind (require hg _) fun _ => bind (reads (reads_role hr)) fun _ => ?_
  exact bind (changes (.putRole hr hg)) fun _ => pure _

theorem roleDelete {r : RoleDelete} (hr : scope (.role r.roleId)) : Confined scope (InPlace.roleDelete r) := by
  have owned : Reads scope fun s => (s.roles.get? r.roleId).filter (·.guildId = r.guildId) :=
    (reads_role hr).map (Option.filter _)
  refine bind (reads owned) fun known => ?_
  cases known with
  | none => exact pure _
  | some old => exact bind (changes (.deleteRole hr)) fun _ => pure _

theorem memberAdd {a : MemberAdd} (hg : scope (.guild a.guildId)) : Confined scope (InPlace.memberAdd a) := by
  refine bind (require hg _) fun _ => bind (reads (reads_member hg)) fun old => ?_
  refine bind (changes (.cacheMember hg)) fun _ => ?_
  cases old with
  | some m => exact pure _
  | none => exact bind (changes (.countJoin hg)) fun _ => pure _

theorem memberUpdate {u : MemberUpdate} (hg : scope (.guild u.guildId)) : Confined scope (InPlace.memberUpdate u) := by
  refine bind (require hg _) fun _ => bind (reads (reads_member hg)) fun known => ?_
  cases known with
  | some old =>
    have merge : Shelf.Local (fun g => scope (.guild g)) (fun id => scope (.guild id.guild))
        (Shelf.modify (α := MemberEntry) · ⟨u.guildId, u.user.id⟩ (·.merge u)) :=
      .modify hg fun _ inside => ⟨inside.owner _ rfl, inside.owner⟩
    exact bind (changes (.members merge)) fun _ => pure _
  | none => exact bind (changes (.putMember hg)) fun _ => pure _

theorem memberRemove {r : MemberRemove} (hg : scope (.guild r.guildId)) : Confined scope (InPlace.memberRemove r) := by
  refine bind (reads (reads_member hg)) fun old => ?_
  refine bind (changes (.deletePresence hg)) fun _ => bind (changes (.deleteMember hg)) fun _ => ?_
  cases old with
  | some m => exact bind (changes (.countLeave hg)) fun _ => pure _
  | none => exact pure (α := Event) _

theorem membersChunk {c : MembersChunk} (hg : scope (.guild c.guildId)) : Confined scope (InPlace.membersChunk c) := by
  have merge : Store.Local scope fun s => c.presences.foldl (·.mergePresence c.guildId ·) s :=
    .foldl fun u _ => .mergePresence hg u
  refine bind (require hg _) fun _ => bind (changes (.putMembers hg c.members)) fun _ => ?_
  exact bind (changes merge) fun _ => pure _

theorem presenceUpdate {u : PresenceUpdate} (ho : ∀ g, u.guildId = some g → scope (.guild g)) :
    Confined scope (InPlace.presenceUpdate u) := by
  unfold InPlace.presenceUpdate
  cases owner : u.guildId with
  | none => exact throw _
  | some g =>
    have hg := ho g owner
    refine bind (require hg _) fun _ => bind (reads (reads_presence hg)) fun _ => ?_
    exact bind (changes (.mergePresence hg u)) fun _ => pure _

theorem voiceStateUpdate {v : VoiceState} (ho : ∀ g, v.guildId = some g → scope (.guild g)) :
    Confined scope (InPlace.voiceStateUpdate v) := by
  unfold InPlace.voiceStateUpdate
  cases owner : v.guildId with
  | none => exact throw _
  | some g =>
    have hg := ho g owner
    refine bind (require hg _) fun _ => bind (reads (reads_voiceState hg)) fun _ => ?_
    exact bind (changes (.putVoiceState hg v)) fun _ => pure _

theorem emojisUpdate {u : EmojiSet} (hg : scope (.guild u.guildId))
    (he : ∀ e ∈ emojiEntries u.guildId u.emojis, scope (.emoji e.id)) : Confined scope (InPlace.emojisUpdate u) := by
  have inside : ∀ e ∈ emojiEntries u.guildId u.emojis,
      Shelf.Inside (fun g => scope (.guild g)) (fun e => scope (.emoji e)) e := by
    intro e mem
    refine ⟨he e mem, Store.Local.owns ?_⟩
    rw [mem_emojiEntries mem]
    exact hg
  have retain : Shelf.Local (α := EmojiEntry) (fun g => scope (.guild g)) (fun e => scope (.emoji e))
      (·.retain u.guildId (.ofList ((emojiEntries u.guildId u.emojis).map (·.id)))) := by
    refine .retain hg fun k named => ?_
    obtain ⟨_, mem, rfl⟩ := Shelf.names_ofList.1 named
    obtain ⟨e, sent, rfl⟩ := List.mem_map.1 mem
    exact he e sent
  have difference : Reads scope fun s => (replaceEmojis s.emojis (emojiEntries u.guildId u.emojis)).2 :=
    fun s t tidy same => snd_replaceEmojis inside tidy.emojis same.emojis
  refine bind (require hg _) fun _ => bind (reads ((reads_emojisOf hg).map (List.filter _))) fun _ => ?_
  refine bind (changes (.emojis retain)) fun _ => bind (reads difference) fun _ => ?_
  exact bind (changes (.emojis (local_replaceEmojis inside))) fun _ => pure _

theorem perform {d : Dispatch} (within : ∀ k ∈ d.footprint, scope k) (other : ∀ u, d ≠ .userUpdate u) :
    Confined scope (InPlace.perform d) := by
  cases d with
  | channelCreate c =>
    obtain ⟨hc, ho⟩ := List.forall_mem_cons.1 within
    exact channelCreate hc fun g owner => ho _ (by simp [owner])
  | channelDelete c => exact channelDelete (within _ List.mem_cons_self)
  | channelUpdate u =>
    obtain ⟨hc, ho⟩ := List.forall_mem_cons.1 within
    exact channelUpdate hc fun g owner => ho _ (by simp [owner])
  | guildCreate g => exact guildCreate within
  | guildDelete n => exact guildDelete (within _ List.mem_cons_self)
  | emojisUpdate u =>
    obtain ⟨hg, he⟩ := List.forall_mem_cons.1 within
    exact emojisUpdate hg (List.forall_mem_map.1 he)
  | guildUpdate u => exact guildUpdate (within _ List.mem_cons_self)
  | memberAdd a => exact memberAdd (within _ List.mem_cons_self)
  | membersChunk c => exact membersChunk (within _ List.mem_cons_self)
  | memberRemove r => exact memberRemove (within _ List.mem_cons_self)
  | memberUpdate u => exact memberUpdate (within _ List.mem_cons_self)
  | presenceUpdate u => exact presenceUpdate fun g owner => within _ (by simp [Dispatch.footprint, owner])
  | ready r => exact ready (List.forall_mem_map.1 within)
  | roleCreate r => exact roleCreate (within _ (by simp [Dispatch.footprint])) (within _ (by simp [Dispatch.footprint]))
  | roleUpdate r => exact roleUpdate (within _ (by simp [Dispatch.footprint])) (within _ (by simp [Dispatch.footprint]))
  | roleDelete r => exact roleDelete (within _ List.mem_cons_self)
  | userUpdate u => exact absurd rfl (other u)
  | voiceStateUpdate v => exact voiceStateUpdate fun g owner => within _ (by simp [Dispatch.footprint, owner])
  | unknown name payload => exact pure _

end Confined
end InPlace

section
variable {s t : Store} {d : Dispatch}

theorem runs_perform_eq (s : Store) (d : Dispatch) :
    InPlace.runs (InPlace.perform d) s = ((s.update d).map Prod.snd, s.step (.dispatch d)) := by
  rw [InPlace.runs_perform, step]
  cases s.update d <;> rfl

theorem local_dispatch (within : ∀ k ∈ d.footprint, scope k) (other : ∀ u, d ≠ .userUpdate u) :
    Local scope (·.step (.dispatch d)) := by
  have change := (InPlace.Confined.perform within other).change
  simp only [runs_perform_eq] at change
  exact change

theorem reads_update (within : ∀ k ∈ d.footprint, scope k) (other : ∀ u, d ≠ .userUpdate u) :
    Reads scope fun s => (s.update d).map Prod.snd := by
  have ending := (InPlace.Confined.perform within other).ending
  simp only [runs_perform_eq] at ending
  exact ending

end
end GuildFeed.Store
