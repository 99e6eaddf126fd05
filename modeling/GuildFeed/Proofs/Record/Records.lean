import GuildFeed.Proofs.Record.Reading

namespace GuildFeed

open Json.Fields Reader Shape

theorem User.finds {u : User} {fs : Json.Fields} (h : u.Renders fs) : shape.Finds fs u :=
  ((h.id.finds u.id.undoes_read).map mk)
    |>.seq (h.username.finds (undoes_string u.username))
    |>.seq (h.discriminator.finds undoes_string)
    |>.seq (h.avatar.finds undoes_string)
    |>.seq (h.bot.finds (undoes_bool u.bot))

theorem User.undoes_read (u : User) : read.Undoes rendering u := undoes_object fun _ => finds

theorem User.undoes_readInside (u : User) : readInside.Undoes rendering u where
  read_eq := by
    rintro _ ⟨known⟩
    rw [readInside, Shape.readInside, readWith, finds known, Gathered.toExcept]
  solid := nofun

theorem PartialUser.undoes_read (u : PartialUser) : read.Undoes rendering u :=
  undoes_object fun _ h => (h.id.finds u.id.undoes_read).map mk

theorem ActivitySpan.undoes_read (t : ActivitySpan) : read.Undoes rendering t :=
  undoes_object fun _ h => ((h.start.finds undoes_u64).map mk).seq (h.stop.finds undoes_u64)

theorem Activity.undoes_read (a : Activity) : read.Undoes rendering a :=
  undoes_object fun _ h =>
    ((h.name.finds (undoes_string a.name)).map mk)
      |>.seq (h.kind.finds a.kind.undoes_read)
      |>.seq (h.url.finds undoes_string)
      |>.seq (h.span.finds ActivitySpan.undoes_read)
      |>.seq (h.state.finds undoes_string)

theorem PresenceUpdate.undoes_read (u : PresenceUpdate) : read.Undoes rendering u :=
  undoes_object fun _ h =>
    ((h.user.finds u.user.undoes_read).map mk)
      |>.seq (h.guildId.finds Snowflake.undoes_read)
      |>.seq (h.status.finds fun s _ => s.undoes_read)
      |>.seq (h.activity.finds Activity.undoes_read)

theorem Channel.undoes_read {c : Channel} (proper : c.kind.Proper) : read.Undoes rendering c :=
  undoes_object fun _ h =>
    ((h.id.finds c.id.undoes_read).map mk)
      |>.seq (h.kind.finds (ChannelKind.undoes_read proper))
      |>.seq (h.guildId.finds Snowflake.undoes_read)
      |>.seq (h.name.finds undoes_string)
      |>.seq (h.position.finds undoes_i64)
      |>.seq (h.parentId.finds Snowflake.undoes_read)
      |>.seq (h.topic.finds undoes_string)
      |>.seq (h.nsfw.finds (undoes_bool c.nsfw))

theorem ChannelUpdate.undoes_read {u : ChannelUpdate} (proper : ∀ kind, u.kind = .value kind → kind.Proper) :
    read.Undoes rendering u :=
  undoes_object fun _ h =>
    ((h.id.finds u.id.undoes_read).map mk)
      |>.seq (h.guildId.finds Snowflake.undoes_read)
      |>.seq (h.kind.finds fun kind given => ChannelKind.undoes_read (proper kind given))
      |>.seq (h.name.finds fun s _ => undoes_string s)
      |>.seq (h.position.finds fun n _ => undoes_i64 n)
      |>.seq (h.parentId.finds fun id _ => id.undoes_read)
      |>.seq (h.topic.finds fun s _ => undoes_string s)
      |>.seq (h.nsfw.finds fun b _ => undoes_bool b)

theorem Role.undoes_read (r : Role) : read.Undoes rendering r :=
  undoes_object fun _ h =>
    ((h.id.finds r.id.undoes_read).map mk)
      |>.seq (h.name.finds (undoes_string r.name))
      |>.seq (h.permissions.finds r.permissions.undoes_read)
      |>.seq (h.position.finds (undoes_i64 r.position))
      |>.seq (h.color.finds (undoes_u32 r.color))
      |>.seq (h.hoist.finds (undoes_bool r.hoist))
      |>.seq (h.managed.finds (undoes_bool r.managed))
      |>.seq (h.mentionable.finds (undoes_bool r.mentionable))

theorem GuildRole.undoes_shape (name : String) (r : GuildRole) : (shape.read name).Undoes rendering r :=
  undoes_object fun _ h => ((h.guildId.finds r.guildId.undoes_read).map mk).seq (h.role.finds r.role.undoes_read)

theorem RoleDelete.undoes_read (r : RoleDelete) : read.Undoes rendering r :=
  undoes_object fun _ h =>
    ((h.guildId.finds r.guildId.undoes_read).map mk).seq (h.roleId.finds r.roleId.undoes_read)

theorem Emoji.undoes_read (e : Emoji) : read.Undoes rendering e :=
  undoes_object fun _ h =>
    ((h.id.finds Snowflake.undoes_read).map mk)
      |>.seq (h.name.finds undoes_string)
      |>.seq (h.roles.finds (undoes_list fun id _ => id.undoes_read))
      |>.seq (h.animated.finds (undoes_bool e.animated))
      |>.seq (h.managed.finds (undoes_bool e.managed))
      |>.seq (h.requireColons.finds (undoes_bool e.requireColons))
      |>.seq (h.available.finds (undoes_bool e.available))

theorem EmojiSet.undoes_read (s : EmojiSet) : read.Undoes rendering s :=
  undoes_object fun _ h =>
    ((h.guildId.finds s.guildId.undoes_read).map mk)
      |>.seq (h.emojis.finds (undoes_list fun e _ => e.undoes_read))

theorem VoiceState.undoes_read (v : VoiceState) : read.Undoes rendering v :=
  undoes_object fun _ h =>
    ((h.guildId.finds Snowflake.undoes_read).map mk)
      |>.seq (h.channelId.finds Snowflake.undoes_read)
      |>.seq (h.userId.finds v.userId.undoes_read)
      |>.seq (h.sessionId.finds (undoes_string v.sessionId))
      |>.seq (h.deaf.finds (undoes_bool v.deaf))
      |>.seq (h.mute.finds (undoes_bool v.mute))
      |>.seq (h.selfDeaf.finds (undoes_bool v.selfDeaf))
      |>.seq (h.selfMute.finds (undoes_bool v.selfMute))
      |>.seq (h.suppress.finds (undoes_bool v.suppress))

theorem Member.finds {m : Member} {fs : Json.Fields} {user : Reader User} (h : m.Renders fs)
    (undoes : user.Undoes User.rendering m.user) : (shapeWith user).Finds fs m :=
  ((h.user.finds undoes).map mk)
    |>.seq (h.nick.finds undoes_string)
    |>.seq (h.roles.finds (undoes_list fun id _ => id.undoes_read))
    |>.seq (h.joinedAt.finds undoes_string)
    |>.seq (h.deaf.finds (undoes_bool m.deaf))
    |>.seq (h.mute.finds (undoes_bool m.mute))

theorem Member.undoes_read (m : Member) : read.Undoes rendering m :=
  undoes_object fun _ h => finds h m.user.undoes_read

theorem MemberAdd.undoes_read (a : MemberAdd) : read.Undoes rendering a where
  read_eq := by
    rintro _ ⟨known⟩
    have guild := known.guildId.finds a.guildId.undoes_read
    have member := Member.finds known.member a.member.user.undoes_readInside
    rw [read, guild, member]
    rfl
  solid := nofun

theorem MemberUpdate.undoes_read (u : MemberUpdate) : read.Undoes rendering u :=
  undoes_object fun _ h =>
    ((h.guildId.finds u.guildId.undoes_read).map mk)
      |>.seq (h.user.finds u.user.undoes_read)
      |>.seq (h.nick.finds fun s _ => undoes_string s)
      |>.seq (h.roles.finds fun _ _ => undoes_list fun id _ => id.undoes_read)
      |>.seq (h.joinedAt.finds fun s _ => undoes_string s)
      |>.seq (h.deaf.finds fun b _ => undoes_bool b)
      |>.seq (h.mute.finds fun b _ => undoes_bool b)

theorem MemberRemove.undoes_read (r : MemberRemove) : read.Undoes rendering r :=
  undoes_object fun _ h => ((h.guildId.finds r.guildId.undoes_read).map mk).seq (h.user.finds r.user.undoes_read)

theorem MembersChunk.undoes_read (c : MembersChunk) : read.Undoes rendering c :=
  undoes_object fun _ h =>
    ((h.guildId.finds c.guildId.undoes_read).map mk)
      |>.seq (h.members.finds (undoes_list fun m _ => m.undoes_read))
      |>.seq (h.presences.finds (undoes_list fun p _ => p.undoes_read))
      |>.seq (h.index.finds (undoes_u32 c.index))
      |>.seq (h.count.finds (undoes_u32 c.count))

theorem Guild.undoes_read {g : Guild} (proper : ∀ c ∈ g.channels, c.kind.Proper) : read.Undoes rendering g :=
  undoes_object fun _ h =>
    ((h.id.finds g.id.undoes_read).map mk)
      |>.seq (h.name.finds (undoes_string g.name))
      |>.seq (h.ownerId.finds g.ownerId.undoes_read)
      |>.seq (h.icon.finds undoes_string)
      |>.seq (h.description.finds undoes_string)
      |>.seq (h.memberCount.finds undoes_u64)
      |>.seq (h.unavailable.finds (undoes_bool g.unavailable))
      |>.seq (h.channels.finds (undoes_list fun c mem => Channel.undoes_read (proper c mem)))
      |>.seq (h.roles.finds (undoes_list fun r _ => r.undoes_read))
      |>.seq (h.emojis.finds (undoes_list fun e _ => e.undoes_read))
      |>.seq (h.members.finds (undoes_list fun m _ => m.undoes_read))
      |>.seq (h.presences.finds (undoes_list fun p _ => p.undoes_read))
      |>.seq (h.voiceStates.finds (undoes_list fun v _ => v.undoes_read))

theorem GuildUpdate.undoes_read (u : GuildUpdate) : read.Undoes rendering u :=
  undoes_object fun _ h =>
    ((h.id.finds u.id.undoes_read).map mk)
      |>.seq (h.name.finds fun s _ => undoes_string s)
      |>.seq (h.ownerId.finds fun id _ => id.undoes_read)
      |>.seq (h.icon.finds fun s _ => undoes_string s)
      |>.seq (h.description.finds fun s _ => undoes_string s)

theorem GuildNotice.undoes_shape (name : String) (n : GuildNotice) : (shape.read name).Undoes rendering n :=
  undoes_object fun _ h =>
    ((h.id.finds n.id.undoes_read).map mk).seq (h.unavailable.finds (undoes_bool n.unavailable))

theorem Ready.undoes_read (r : Ready) : read.Undoes rendering r :=
  undoes_object fun _ h =>
    ((h.version.finds (undoes_u8 r.version)).map mk)
      |>.seq (h.user.finds r.user.undoes_read)
      |>.seq (h.guilds.finds (undoes_list fun n _ => n.undoes_shape "UnavailableGuild"))
      |>.seq (h.sessionId.finds (undoes_string r.sessionId))

namespace Dispatch

theorem Kind.ofName?_name (kind : Kind) : Kind.ofName? kind.name = some kind := by
  cases kind <;> rfl

/-- The two tables of names are inverse to each other. -/
theorem Kind.ofName?_eq_some {name : String} {kind : Kind} : Kind.ofName? name = some kind ↔ kind.name = name := by
  constructor
  · unfold Kind.ofName?
    split <;> rintro ⟨⟩ <;> rfl
  · rintro rfl
    exact kind.ofName?_name

theorem Kind.read_eq {d : Dispatch} {kind : Kind} {v : Json} (known : d.kind? = some kind) (proper : d.Proper)
    (renders : d.rendering v) : kind.read v = .ok d := by
  cases d <;> cases known
  case channelCreate c => exact (Channel.undoes_read proper).map _ renders
  case channelDelete c => exact (Channel.undoes_read proper).map _ renders
  case channelUpdate u => exact (ChannelUpdate.undoes_read proper).map _ renders
  case guildCreate g => exact (Guild.undoes_read proper).map _ renders
  case guildDelete n => exact (n.undoes_shape "GuildDelete").map _ renders
  case emojisUpdate s => exact s.undoes_read.map _ renders
  case guildUpdate u => exact u.undoes_read.map _ renders
  case memberAdd a => exact a.undoes_read.map _ renders
  case membersChunk c => exact c.undoes_read.map _ renders
  case memberRemove r => exact r.undoes_read.map _ renders
  case memberUpdate u => exact u.undoes_read.map _ renders
  case presenceUpdate u => exact u.undoes_read.map _ renders
  case ready r => exact r.undoes_read.map _ renders
  case roleCreate r => exact (r.undoes_shape "RoleCreate").map _ renders
  case roleDelete r => exact r.undoes_read.map _ renders
  case roleUpdate r => exact (r.undoes_shape "RoleUpdate").map _ renders
  case userUpdate u => exact u.undoes_read.map _ renders
  case voiceStateUpdate v => exact v.undoes_read.map _ renders

end Dispatch
end GuildFeed
