import Mathlib.Data.List.Infix
import GuildFeed.Proofs.Store.EmojiSet
import GuildFeed.Proofs.Store.Owning

namespace GuildFeed.Store
open GuildFeed.Shelf

variable {s t : Store} {e : Event}

inductive EmojiMove (s : Store) : Shelf EmojiId EmojiEntry → Prop
  | keep : EmojiMove s s.emojis
  | ensure (g : GuildId) : EmojiMove s (s.emojis.ensure g)
  | close (gs : List GuildId) : EmojiMove s (gs.foldl close s.emojis)
  | refill (g : GuildId) (es : List Emoji) :
    EmojiMove s (s.emojis.refill g EmojiEntry.id some (emojiEntries g es))
  | put (e : EmojiEntry) : EmojiMove s (s.insert (.emoji e)).emojis
  | delete (id : EmojiId) : EmojiMove s (s.deleteEmoji id).emojis
  | clear : EmojiMove s .empty

theorem EmojiMove.of_eq (same : t.emojis = s.emojis) : s.EmojiMove t.emojis :=
  same ▸ .keep

theorem EmojiMove.of_rest {u : Store} (rest : t = u) (same : u.emojis = s.emojis) : s.EmojiMove t.emojis :=
  .of_eq ((congrArg emojis rest).trans same)

theorem emojis_dropListed (s : Store) (gs : List GuildId) : (s.dropListed gs).emojis = gs.foldl close s.emojis := by
  induction gs generalizing s with
  | nil => rfl
  | cons g gs ih => exact ih ((s.withoutGuild g).mark g)

theorem emojiMove_update (own : s.Ownership) {d : Dispatch} (h : s.update d = .ok (t, e)) : s.EmojiMove t.emojis := by
  cases d with
  | emojisUpdate u =>
    obtain ⟨-, rfl⟩ := onEmojisUpdate_ok.1 ⟨e, h⟩
    exact .refill u.guildId u.emojis
  | guildCreate g =>
    have created : (s.onGuildCreate g).1 = t := congrArg Prod.fst (Except.ok.inj h)
    subst created
    simp only [onGuildCreate]
    split
    · exact .close [g.id]
    · rw [putSnapshot_eq own]
      exact .refill g.id g.emojis
  | guildDelete n =>
    have deleted : (s.onGuildDelete n).1 = t := congrArg Prod.fst (Except.ok.inj h)
    subst deleted
    simp only [onGuildDelete]
    split
    · exact .close [n.id]
    · exact .close [n.id]
  | ready r =>
    obtain ⟨⟩ := h
    rw [emojis_dropListed]
    exact .close r.listed
  | guildUpdate u =>
    obtain ⟨_, -, rfl, -⟩ := onGuildUpdate_ok.1 h
    exact .keep
  | channelCreate c =>
    obtain ⟨-, rfl, -⟩ := onChannelCreate_ok.1 h
    exact .keep
  | channelUpdate u =>
    rcases (onChannelUpdate_ok.1 h).2 with ⟨_, -, rfl, -⟩ | ⟨_, -, -, rfl, -⟩
    · exact .keep
    · exact .keep
  | channelDelete c =>
    obtain ⟨⟩ := h
    exact .of_rest (rest_deleteChannel s c.id) rfl
  | memberAdd a =>
    obtain ⟨-, -, rfl⟩ := onMemberAdd_ok.1 h
    split
    · exact .of_rest (rest_cacheMember s _) rfl
    · exact .of_rest (rest_countJoin ..) (congrArg emojis (rest_cacheMember s _) :)
  | memberUpdate u =>
    rcases (onMemberUpdate_ok.1 h).2 with ⟨_, -, rfl, -⟩ | ⟨-, rfl, -⟩
    · exact .keep
    · exact .keep
  | memberRemove r =>
    have removed : (s.onMemberRemove r).1 = t := congrArg Prod.fst (Except.ok.inj h)
    subst removed
    simp only [onMemberRemove]
    split
    · exact .of_rest (rest_countLeave ..) rfl
    · exact .keep
  | membersChunk c =>
    obtain ⟨-, rfl, -⟩ := onMembersChunk_ok.1 h
    exact .of_eq (view_membersChunk emojis (fun s m => (congrArg emojis (rest_cacheMember s m) :)) (fun _ _ _ => rfl) c s)
  | presenceUpdate u =>
    obtain ⟨_, -, -, rfl, -⟩ := onPresenceUpdate_ok.1 h
    exact .keep
  | roleCreate r =>
    obtain ⟨-, rfl, -⟩ := onRoleCreate_ok.1 h
    exact .keep
  | roleUpdate r =>
    obtain ⟨-, rfl, -⟩ := onRoleUpdate_ok.1 h
    exact .keep
  | roleDelete r =>
    have deleted : (s.onRoleDelete r).1 = t := congrArg Prod.fst (Except.ok.inj h)
    subst deleted
    simp only [onRoleDelete]
    split
    · exact .of_rest (rest_deleteRole s r.roleId) rfl
    · exact .keep
  | userUpdate u =>
    obtain ⟨⟩ := h
    exact .keep
  | voiceStateUpdate v =>
    obtain ⟨g, -, -, rfl, -⟩ := onVoiceStateUpdate_ok.1 h
    exact .of_rest (rest_putVoiceState s g v) rfl
  | unknown name payload =>
    obtain ⟨⟩ := h
    exact .keep

theorem emojiMove_step (own : s.Ownership) (x : Command) : s.EmojiMove (s.step x).emojis := by
  cases x with
  | dispatch d =>
    rw [step]
    split
    · next accepted => exact emojiMove_update own accepted
    · exact .keep
  | upsert x =>
    rw [step]
    split
    · next accepted =>
      obtain ⟨-, rfl, -⟩ := upsert_ok.1 accepted
      cases x with
      | guild g =>
        rw [insert]
        split
        · exact .keep
        · exact .ensure g.id
      | emoji e => exact .put e
      | _ => exact .keep
    · exact .keep
  | remove k =>
    cases k with
    | guild g => exact .close [g]
    | emoji id => exact .delete id
    | channel id => exact .of_rest (rest_deleteChannel s id) rfl
    | role id => exact .of_rest (rest_deleteRole s id) rfl
    | _ => exact .keep
  | removeGuild g => exact .close [g]
  | clear => exact .clear

def SameEmojiOwners (s t : Store) : Prop :=
  ∀ id a b, s.emojis.get? id = some a → t.emojis.get? id = some b → a.guildId = b.guildId

instance (s t : Store) : Decidable (s.SameEmojiOwners t) :=
  decidable_of_iff (∀ a ∈ s.emojis.table.toList, ∀ b ∈ t.emojis.table.toList, a.1 = b.1 → a.2.guildId = b.2.guildId) <| by
    simp only [Prod.forall, Std.ExtTreeMap.mem_toList_iff_getElem?_eq_some]
    constructor
    · intro same id a b before after
      exact same id a before id b after rfl
    · rintro same id a before _ b after rfl
      exact same id a b before after

theorem EmojiMove.exact {shelf : Shelf EmojiId EmojiEntry} (moves : s.EmojiMove shelf) (exact : s.emojis.Exact)
    (same : ∀ id a b, s.emojis.get? id = some a → shelf.get? id = some b → a.guildId = b.guildId) : shelf.Exact := by
  cases moves with
  | keep => exact exact
  | ensure g => exact exact.ensure g
  | close gs => exact exact.foldl_close gs
  | refill g es =>
    refine exact.refill (fits_emojis g es) (steady_of_isSome fun _ _ => rfl) fun e mem a h found owner => ?_
    -- the id names an emoji of the guild afterwards, so what it named before was of the guild too
    obtain ⟨b, last⟩ := exists_last? EmojiEntry.id mem
    have stored : (s.emojis.refill g EmojiEntry.id some (emojiEntries g es)).get? e.id = some b := by
      rw [emoji?_refill, last, Option.some_or]
    have home : b.guildId = g := mem_emojiEntries (last?_eq_some last).1
    rw [← owner, ← home]
    exact congrArg some (same e.id a b found stored).symm
  | put e => exact exact.put_unlistMoved rfl Option.map_eq_bind.symm
  | delete id => exact exact_deleteEmoji exact id
  | clear => exact .empty

def KeepsEmojiOwners (cs : List Command) : Prop :=
  ∀ before after, before <+: cs → after <+: cs → (run before).SameEmojiOwners (run after)

instance (cs : List Command) : Decidable (KeepsEmojiOwners cs) :=
  decidable_of_iff (∀ before ∈ cs.inits, ∀ after ∈ cs.inits, (run before).SameEmojiOwners (run after)) <| by
    simp only [List.mem_inits, KeepsEmojiOwners]
    exact ⟨fun same before after hb ha => same before hb after ha, fun same before hb after ha => same before after hb ha⟩

theorem exact_emojis_run {cs : List Command} (keeps : KeepsEmojiOwners cs) : (run cs).emojis.Exact := by
  induction cs using List.reverseRecOn with
  | nil => exact .empty
  | append_singleton cs x ih =>
    have before : cs <+: cs ++ [x] := List.prefix_append cs [x]
    have exact := ih fun as bs ha hb => keeps as bs (ha.trans before) (hb.trans before)
    have same := keeps cs (cs ++ [x]) before (List.prefix_refl _)
    rw [run_concat] at same ⊢
    exact (emojiMove_step (reachable_run cs).ownership x).exact exact same

end GuildFeed.Store
