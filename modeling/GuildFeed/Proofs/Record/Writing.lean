import Mathlib.Data.List.Basic
import GuildFeed.Proofs.Text.Numeral
import GuildFeed.Rendering

namespace GuildFeed

namespace Json

theorem lookup_insertField (k name : String) (v : Json) (fs : Fields) :
    (insertField k v fs).lookup name = if name = k then some v else fs.lookup name := by
  induction fs with
  | nil => rw [insertField, Fields.lookup_cons]
  | cons f fs ih =>
    rw [insertField]
    split_ifs with before same here here
    all_goals simp only [Fields.lookup_cons, ih]
    all_goals grind

theorem lookup_eq_none_of_fresh {fs : Fields} {name : String} (fresh : name ∉ fs.map (·.1)) :
    fs.lookup name = none := by
  refine List.lookup_eq_none_iff.2 fun f mem => bne_iff_ne.2 ?_
  rintro rfl
  exact fresh (List.mem_map_of_mem mem)

theorem lookup_foldl_insertField {fs : Fields} (distinct : (fs.map (·.1)).Nodup) (acc : Fields) (name : String) :
    (fs.foldl (fun acc f => insertField f.1 f.2 acc) acc).lookup name = (fs.lookup name).or (acc.lookup name) := by
  induction fs generalizing acc with
  | nil => simp
  | cons f fs ih =>
    obtain ⟨fresh, distinct⟩ := List.nodup_cons.1 distinct
    rw [List.foldl_cons, ih distinct, lookup_insertField, Fields.lookup_cons]
    by_cases here : name = f.1
    · have lacking : fs.lookup name = none := lookup_eq_none_of_fresh (here ▸ fresh)
      rw [lacking, if_pos here, if_pos here, Option.none_or, Option.some_or]
    · rw [if_neg here, if_neg here]

theorem lookup_sortFields {fs : Fields} (distinct : (fs.map (·.1)).Nodup) (name : String) :
    (sortFields fs).lookup name = fs.lookup name := by
  rw [sortFields, lookup_foldl_insertField distinct, List.lookup_nil, Option.or_none]

theorem lookup_of_mem {fs : Fields} (distinct : (fs.map (·.1)).Nodup) {f : String × Json} (mem : f ∈ fs) :
    fs.lookup f.1 = some f.2 := by
  induction fs with
  | nil => cases mem
  | cons g fs ih =>
    obtain ⟨fresh, distinct⟩ := List.nodup_cons.1 distinct
    rw [Fields.lookup_cons]
    obtain _ | ⟨_, mem⟩ := mem
    · rw [if_pos rfl]
    · have other : f.1 ≠ g.1 := fun same => fresh (List.mem_map.2 ⟨f, mem, same⟩)
      rw [if_neg other, ih distinct mem]

abbrev present (fs : List (String × Option Json)) : Fields := fs.filterMap fun f => f.2.map (f.1, ·)

theorem names_present_sublist (fs : List (String × Option Json)) :
    ((present fs).map (·.1)).Sublist (fs.map (·.1)) := by
  induction fs with
  | nil => exact .slnil
  | cons f fs ih =>
    obtain ⟨name, _ | v⟩ := f
    · exact ih.cons name
    · exact ih.cons_cons name

theorem lookup_present {fs : List (String × Option Json)} (distinct : (fs.map (·.1)).Nodup)
    {f : String × Option Json} (mem : f ∈ fs) : (present fs).lookup f.1 = f.2 := by
  cases given : f.2 with
  | some v =>
    have there : (f.1, v) ∈ present fs := List.mem_filterMap.2 ⟨f, mem, by rw [given, Option.map_some]⟩
    exact lookup_of_mem (distinct.sublist (names_present_sublist fs)) there
  | none =>
    refine lookup_eq_none_of_fresh fun there => ?_
    obtain ⟨g, there, same⟩ := List.mem_map.1 there
    obtain ⟨h, mem', found⟩ := List.mem_filterMap.1 there
    obtain ⟨v, holds, rfl⟩ := Option.map_eq_some_iff.1 found
    have one : h = f := List.inj_on_of_nodup_map distinct mem' mem same
    rw [one, given] at holds
    cases holds

end Json

namespace Rendering
variable {α : Type} {p : α → Json.Fields → Prop} {a : α}

theorem object_ofFields {fs : Json.Fields} (distinct : (fs.map (·.1)).Nodup)
    (known : ∀ gs : Json.Fields, (fs.Forall fun f => gs.lookup f.1 = some f.2) → p a gs) :
    object p a (.ofFields fs) := by
  refine .fields (known _ (List.forall_iff_forall_mem.2 fun f mem => ?_))
  rw [Json.lookup_sortFields distinct, Json.lookup_of_mem distinct mem]

theorem object_ofPresent {fs : List (String × Option Json)} (distinct : (fs.map (·.1)).Nodup)
    (known : ∀ gs : Json.Fields, (fs.Forall fun f => gs.lookup f.1 = f.2) → p a gs) :
    object p a (.ofPresent fs) := by
  refine .fields (known _ (List.forall_iff_forall_mem.2 fun f mem => ?_))
  rw [Json.lookup_sortFields (distinct.sublist (Json.names_present_sublist fs)), Json.lookup_present distinct mem]

theorem list_ofList {r : Rendering α} {as : List α} {render : α → Json} (each : ∀ a ∈ as, r a (render a)) :
    list r as (.ofList render as) :=
  .items (List.forall₂_map_right_iff.2 (List.forall₂_same.2 each))

theorem word_ofWord (w : UInt64) : word w (.ofWord w) := by
  refine .numeral ?_
  rw [String.toList_ofList]
  exact Text.denotes_numeral w.toNat

end Rendering

namespace Json.Fields
variable {α : Type} {fs : Json.Fields} {name : String} {r : Rendering α} {render : α → Json}

theorem Optional.of_written {o : Option α} (holds : fs.lookup name = some (.ofOption render o))
    (each : ∀ a, r a (render a)) : fs.Optional name r o := by
  cases o with
  | none => exact .null holds
  | some a => exact .given ⟨_, holds, each a⟩

theorem Optional.of_kept {o : Option α} (holds : fs.lookup name = o.map render) (each : ∀ a, r a (render a)) :
    fs.Optional name r o := by
  cases o with
  | none => exact .omitted holds
  | some a => exact .given ⟨_, holds, each a⟩

theorem Patched.of_written {p : Patch α} (holds : fs.lookup name = p.render? render)
    (each : ∀ a, r a (render a)) : fs.Patched name r p := by
  cases p with
  | absent => exact .absent holds
  | null => exact .null holds
  | value a => exact .value ⟨_, holds, each a⟩

end Json.Fields

open Rendering

theorem User.rendering_render (u : User) : rendering u u.render := by
  refine object_ofFields (by simp) ?_
  rintro fs ⟨id, username, discriminator, avatar, bot⟩
  exact
    { id := ⟨_, id, word_ofWord _⟩
      username := .given ⟨_, username, rfl⟩
      discriminator := .of_written discriminator fun _ => rfl
      avatar := .of_written avatar fun _ => rfl
      bot := .given ⟨_, bot, rfl⟩ }

theorem PartialUser.rendering_render (u : PartialUser) : rendering u u.render :=
  object_ofFields (by simp) fun _ id => ⟨_, id, word_ofWord _⟩

theorem ActivitySpan.rendering_render (t : ActivitySpan) : rendering t t.render := by
  refine object_ofPresent (by simp) ?_
  rintro fs ⟨start, stop⟩
  exact
    { start := .of_kept start fun _ => rfl
      stop := .of_kept stop fun _ => rfl }

theorem Activity.rendering_render (a : Activity) : rendering a a.render := by
  refine object_ofPresent (by simp) ?_
  rintro fs ⟨name, kind, url, span, state⟩
  exact
    { name := ⟨_, name, rfl⟩
      kind := ⟨_, kind, rfl⟩
      url := .of_kept url fun _ => rfl
      span := .of_kept span ActivitySpan.rendering_render
      state := .of_kept state fun _ => rfl }

theorem PresenceUpdate.rendering_render (u : PresenceUpdate) : rendering u u.render := by
  have written : u.render = .ofPresent
      [("user", some u.user.render), ("guild_id", some (.ofOption Snowflake.render u.guildId)),
        ("status", u.status.render? Status.render), ("activity", u.activity.render? Activity.render),
        ("game", none)] := rfl
  rw [written]
  refine object_ofPresent (by simp) ?_
  rintro fs ⟨user, guildId, status, activity, game⟩
  exact
    { user := ⟨_, user, u.user.rendering_render⟩
      guildId := .of_written guildId fun id => word_ofWord id.word
      status := .of_written status .word
      activity := .inl ⟨.of_written activity Activity.rendering_render, game⟩ }

theorem Channel.rendering_render (c : Channel) : rendering c c.render := by
  refine object_ofFields (by simp) ?_
  rintro fs ⟨id, kind, guildId, name, position, parentId, topic, nsfw⟩
  exact
    { id := ⟨_, id, word_ofWord _⟩
      kind := ⟨_, kind, rfl⟩
      guildId := .of_written guildId fun id => word_ofWord id.word
      name := .of_written name fun _ => rfl
      position := .of_written position fun _ => rfl
      parentId := .of_written parentId fun id => word_ofWord id.word
      topic := .of_written topic fun _ => rfl
      nsfw := .given ⟨_, nsfw, rfl⟩ }

theorem ChannelUpdate.rendering_render (u : ChannelUpdate) : rendering u u.render := by
  refine object_ofPresent (by simp) ?_
  rintro fs ⟨id, guildId, kind, name, position, parentId, topic, nsfw⟩
  exact
    { id := ⟨_, id, word_ofWord _⟩
      guildId := .of_written guildId fun id => word_ofWord id.word
      kind := .of_written kind fun _ => rfl
      name := .of_written name fun _ => rfl
      position := .of_written position fun _ => rfl
      parentId := .of_written parentId fun id => word_ofWord id.word
      topic := .of_written topic fun _ => rfl
      nsfw := .of_written nsfw fun _ => rfl }

theorem Role.rendering_render (r : Role) : rendering r r.render := by
  refine object_ofFields (by simp) ?_
  rintro fs ⟨id, name, permissions, position, color, hoist, managed, mentionable⟩
  exact
    { id := ⟨_, id, word_ofWord _⟩
      name := .given ⟨_, name, rfl⟩
      permissions := .given ⟨_, permissions, word_ofWord _⟩
      position := .given ⟨_, position, rfl⟩
      color := .given ⟨_, color, rfl⟩
      hoist := .given ⟨_, hoist, rfl⟩
      managed := .given ⟨_, managed, rfl⟩
      mentionable := .given ⟨_, mentionable, rfl⟩ }

theorem GuildRole.rendering_render (r : GuildRole) : rendering r r.render := by
  refine object_ofFields (by simp) ?_
  rintro fs ⟨guildId, role⟩
  exact
    { guildId := ⟨_, guildId, word_ofWord _⟩
      role := ⟨_, role, r.role.rendering_render⟩ }

theorem RoleDelete.rendering_render (r : RoleDelete) : rendering r r.render := by
  refine object_ofFields (by simp) ?_
  rintro fs ⟨guildId, roleId⟩
  exact
    { guildId := ⟨_, guildId, word_ofWord _⟩
      roleId := ⟨_, roleId, word_ofWord _⟩ }

theorem Emoji.rendering_render (e : Emoji) : rendering e e.render := by
  refine object_ofFields (by simp) ?_
  rintro fs ⟨id, name, roles, animated, managed, requireColons, available⟩
  exact
    { id := .of_written id fun id => word_ofWord id.word
      name := .of_written name fun _ => rfl
      roles := .given ⟨_, roles, list_ofList fun id _ => word_ofWord id.word⟩
      animated := .given ⟨_, animated, rfl⟩
      managed := .given ⟨_, managed, rfl⟩
      requireColons := .given ⟨_, requireColons, rfl⟩
      available := .given ⟨_, available, rfl⟩ }

theorem EmojiSet.rendering_render (s : EmojiSet) : rendering s s.render := by
  refine object_ofFields (by simp) ?_
  rintro fs ⟨guildId, emojis⟩
  exact
    { guildId := ⟨_, guildId, word_ofWord _⟩
      emojis := .given ⟨_, emojis, list_ofList fun e _ => e.rendering_render⟩ }

theorem VoiceState.rendering_render (v : VoiceState) : rendering v v.render := by
  refine object_ofFields (by simp) ?_
  rintro fs ⟨guildId, channelId, userId, sessionId, deaf, mute, selfDeaf, selfMute, suppress⟩
  exact
    { guildId := .of_written guildId fun id => word_ofWord id.word
      channelId := .of_written channelId fun id => word_ofWord id.word
      userId := ⟨_, userId, word_ofWord _⟩
      sessionId := .given ⟨_, sessionId, rfl⟩
      deaf := .given ⟨_, deaf, rfl⟩
      mute := .given ⟨_, mute, rfl⟩
      selfDeaf := .given ⟨_, selfDeaf, rfl⟩
      selfMute := .given ⟨_, selfMute, rfl⟩
      suppress := .given ⟨_, suppress, rfl⟩ }

theorem Member.renders_fields (m : Member) {fs : Json.Fields}
    (holds : m.fields.Forall fun f => fs.lookup f.1 = some f.2) : m.Renders fs := by
  obtain ⟨user, nick, roles, joinedAt, deaf, mute⟩ := holds
  exact
    { user := ⟨_, user, m.user.rendering_render⟩
      nick := .of_written nick fun _ => rfl
      roles := .given ⟨_, roles, list_ofList fun id _ => word_ofWord id.word⟩
      joinedAt := .of_written joinedAt fun _ => rfl
      deaf := .given ⟨_, deaf, rfl⟩
      mute := .given ⟨_, mute, rfl⟩ }

theorem Member.rendering_render (m : Member) : rendering m m.render :=
  object_ofFields (by simp [fields]) fun _ => m.renders_fields

theorem MemberAdd.rendering_render (a : MemberAdd) : rendering a a.render := by
  refine object_ofFields (by simp [Member.fields]) ?_
  rintro fs ⟨guildId, member⟩
  exact ⟨⟨_, guildId, word_ofWord _⟩, a.member.renders_fields member⟩

theorem MemberUpdate.rendering_render (u : MemberUpdate) : rendering u u.render := by
  refine object_ofPresent (by simp) ?_
  rintro fs ⟨guildId, user, nick, roles, joinedAt, deaf, mute⟩
  exact
    { guildId := ⟨_, guildId, word_ofWord _⟩
      user := ⟨_, user, u.user.rendering_render⟩
      nick := .of_written nick fun _ => rfl
      roles := .of_written roles fun _ => list_ofList fun id _ => word_ofWord id.word
      joinedAt := .of_written joinedAt fun _ => rfl
      deaf := .of_written deaf fun _ => rfl
      mute := .of_written mute fun _ => rfl }

theorem MemberRemove.rendering_render (r : MemberRemove) : rendering r r.render := by
  refine object_ofFields (by simp) ?_
  rintro fs ⟨guildId, user⟩
  exact
    { guildId := ⟨_, guildId, word_ofWord _⟩
      user := ⟨_, user, r.user.rendering_render⟩ }

theorem MembersChunk.rendering_render (c : MembersChunk) : rendering c c.render := by
  refine object_ofFields (by simp) ?_
  rintro fs ⟨guildId, members, presences, index, count⟩
  exact
    { guildId := ⟨_, guildId, word_ofWord _⟩
      members := .given ⟨_, members, list_ofList fun m _ => m.rendering_render⟩
      presences := .given ⟨_, presences, list_ofList fun p _ => p.rendering_render⟩
      index := .given ⟨_, index, rfl⟩
      count := .given ⟨_, count, rfl⟩ }

theorem Guild.rendering_render (g : Guild) : rendering g g.render := by
  refine object_ofFields (by simp) ?_
  rintro fs ⟨id, name, ownerId, icon, description, memberCount, unavailable, channels, roles, emojis,
    members, presences, voiceStates⟩
  exact
    { id := ⟨_, id, word_ofWord _⟩
      name := .given ⟨_, name, rfl⟩
      ownerId := ⟨_, ownerId, word_ofWord _⟩
      icon := .of_written icon fun _ => rfl
      description := .of_written description fun _ => rfl
      memberCount := .of_written memberCount fun _ => rfl
      unavailable := .given ⟨_, unavailable, rfl⟩
      channels := .given ⟨_, channels, list_ofList fun c _ => c.rendering_render⟩
      roles := .given ⟨_, roles, list_ofList fun r _ => r.rendering_render⟩
      emojis := .given ⟨_, emojis, list_ofList fun e _ => e.rendering_render⟩
      members := .given ⟨_, members, list_ofList fun m _ => m.rendering_render⟩
      presences := .given ⟨_, presences, list_ofList fun p _ => p.rendering_render⟩
      voiceStates := .given ⟨_, voiceStates, list_ofList fun v _ => v.rendering_render⟩ }

theorem GuildUpdate.rendering_render (u : GuildUpdate) : rendering u u.render := by
  refine object_ofPresent (by simp) ?_
  rintro fs ⟨id, name, ownerId, icon, description⟩
  exact
    { id := ⟨_, id, word_ofWord _⟩
      name := .of_written name fun _ => rfl
      ownerId := .of_written ownerId fun id => word_ofWord id.word
      icon := .of_written icon fun _ => rfl
      description := .of_written description fun _ => rfl }

theorem GuildNotice.rendering_render (n : GuildNotice) : rendering n n.render := by
  refine object_ofFields (by simp) ?_
  rintro fs ⟨id, unavailable⟩
  exact
    { id := ⟨_, id, word_ofWord _⟩
      unavailable := .given ⟨_, unavailable, rfl⟩ }

theorem Ready.rendering_render (r : Ready) : rendering r r.render := by
  refine object_ofFields (by simp) ?_
  rintro fs ⟨version, user, guilds, sessionId⟩
  exact
    { version := .given ⟨_, version, rfl⟩
      user := ⟨_, user, r.user.rendering_render⟩
      guilds := .given ⟨_, guilds, list_ofList fun n _ => n.rendering_render⟩
      sessionId := .given ⟨_, sessionId, rfl⟩ }

theorem Dispatch.rendering_render (d : Dispatch) : d.rendering d.render := by
  cases d with
  | channelCreate c | channelDelete c => exact c.rendering_render
  | channelUpdate u => exact u.rendering_render
  | guildCreate g => exact g.rendering_render
  | guildDelete n => exact n.rendering_render
  | emojisUpdate s => exact s.rendering_render
  | guildUpdate u => exact u.rendering_render
  | memberAdd a => exact a.rendering_render
  | membersChunk c => exact c.rendering_render
  | memberRemove r => exact r.rendering_render
  | memberUpdate u => exact u.rendering_render
  | presenceUpdate u => exact u.rendering_render
  | ready r => exact r.rendering_render
  | roleCreate r | roleUpdate r => exact r.rendering_render
  | roleDelete r => exact r.rendering_render
  | userUpdate u => exact u.rendering_render
  | voiceStateUpdate v => exact v.rendering_render
  | unknown name payload => rfl

end GuildFeed
