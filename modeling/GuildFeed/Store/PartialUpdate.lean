import GuildFeed.Store.History

namespace GuildFeed

def Patch.given? {α : Type} : Patch α → Option (Option α)
  | absent => none
  | null => some none
  | value a => some (some a)

def Patch.Apart {α : Type} (p q : Patch α) : Prop := p.value? = none ∨ q.value? = none

def Patch.ApartNullable {α : Type} (p q : Patch α) : Prop := p.given? = none ∨ q.given? = none

structure GuildWrites where
  names : List String
  ownerIds : List UserId
  icons : List (Option String)
  descriptions : List (Option String)

def GuildWrites.of (us : List GuildUpdate) : GuildWrites where
  names := us.filterMap (·.name.value?)
  ownerIds := us.filterMap (·.ownerId.value?)
  icons := us.filterMap (·.icon.given?)
  descriptions := us.filterMap (·.description.given?)

def GuildEntry.written (e : GuildEntry) (w : GuildWrites) : GuildEntry where
  id := e.id
  name := w.names.getLastD e.name
  ownerId := w.ownerIds.getLastD e.ownerId
  icon := w.icons.getLastD e.icon
  description := w.descriptions.getLastD e.description
  memberCount := e.memberCount

structure GuildUpdate.Apart (u v : GuildUpdate) : Prop where
  name : u.name.Apart v.name
  ownerId : u.ownerId.Apart v.ownerId
  icon : u.icon.ApartNullable v.icon
  description : u.description.ApartNullable v.description

structure ChannelWrites where
  kinds : List ChannelKind
  names : List (Option String)
  positions : List Int64
  parentIds : List (Option ChannelId)
  topics : List (Option String)
  nsfws : List Bool

def ChannelWrites.of (us : List ChannelUpdate) : ChannelWrites where
  kinds := us.filterMap (·.kind.value?)
  names := us.filterMap (·.name.given?)
  positions := us.filterMap (·.position.value?)
  parentIds := us.filterMap (·.parentId.given?)
  topics := us.filterMap (·.topic.given?)
  nsfws := us.filterMap (·.nsfw.value?)

def ChannelEntry.written (e : ChannelEntry) (w : ChannelWrites) : ChannelEntry where
  id := e.id
  guildId := e.guildId
  kind := w.kinds.getLastD e.kind
  name := w.names.getLastD e.name
  position := w.positions.getLastD e.position
  parentId := w.parentIds.getLastD e.parentId
  topic := w.topics.getLastD e.topic
  nsfw := w.nsfws.getLastD e.nsfw

structure ChannelUpdate.Apart (u v : ChannelUpdate) : Prop where
  kind : u.kind.Apart v.kind
  name : u.name.ApartNullable v.name
  position : u.position.Apart v.position
  parentId : u.parentId.ApartNullable v.parentId
  topic : u.topic.ApartNullable v.topic
  nsfw : u.nsfw.Apart v.nsfw

structure MemberWrites where
  users : List User
  nicks : List (Option String)
  roles : List (List RoleId)
  joinedAts : List (Option String)
  deafs : List Bool
  mutes : List Bool

def MemberWrites.of (us : List MemberUpdate) : MemberWrites where
  users := us.map (·.user)
  nicks := us.filterMap (·.nick.given?)
  roles := us.filterMap (·.roles.value?)
  joinedAts := us.filterMap (·.joinedAt.given?)
  deafs := us.filterMap (·.deaf.value?)
  mutes := us.filterMap (·.mute.value?)

namespace MemberEntry

def blank (guildId : GuildId) (user : User) : MemberEntry := ⟨guildId, user, none, [], none, false, false⟩

def written (m : MemberEntry) (w : MemberWrites) : MemberEntry where
  guildId := m.guildId
  user := w.users.getLastD m.user
  nick := w.nicks.getLastD m.nick
  roles := w.roles.getLastD m.roles
  joinedAt := w.joinedAts.getLastD m.joinedAt
  deaf := w.deafs.getLastD m.deaf
  mute := w.mutes.getLastD m.mute

end MemberEntry

structure MemberUpdate.Apart (u v : MemberUpdate) : Prop where
  user : u.user = v.user
  nick : u.nick.ApartNullable v.nick
  roles : u.roles.Apart v.roles
  joinedAt : u.joinedAt.ApartNullable v.joinedAt
  deaf : u.deaf.Apart v.deaf
  mute : u.mute.Apart v.mute

structure PresenceWrites where
  statuses : List Status
  activities : List (Option Activity)

def PresenceWrites.of (us : List PresenceUpdate) : PresenceWrites where
  statuses := us.filterMap (·.status.value?)
  activities := us.filterMap (·.activity.given?)

def PresenceEntry.written (p : PresenceEntry) (w : PresenceWrites) : PresenceEntry where
  guildId := p.guildId
  userId := p.userId
  presence := ⟨w.statuses.getLastD p.presence.status, w.activities.getLastD p.presence.activity⟩

structure PresenceUpdate.Apart (u v : PresenceUpdate) : Prop where
  status : u.status.Apart v.status
  activity : u.activity.ApartNullable v.activity

def MemberUpdate.id (u : MemberUpdate) : MemberId := ⟨u.guildId, u.user.id⟩

def PresenceUpdate.id? (u : PresenceUpdate) : Option MemberId := u.guildId.map (⟨·, u.user.id⟩)

namespace Dispatch

def isPartial : Dispatch → Bool
  | guildUpdate _ | channelUpdate _ | memberUpdate _ | presenceUpdate _ => true
  | _ => false

def guildUpdate? (g : GuildId) : Dispatch → Option GuildUpdate
  | guildUpdate u => if u.id = g then some u else none
  | _ => none

def channelUpdate? (c : ChannelId) : Dispatch → Option ChannelUpdate
  | channelUpdate u => if u.id = c then some u else none
  | _ => none

def memberUpdate? (id : MemberId) : Dispatch → Option MemberUpdate
  | memberUpdate u => if u.id = id then some u else none
  | _ => none

def presenceUpdate? (id : MemberId) : Dispatch → Option PresenceUpdate
  | presenceUpdate u => if u.id? = some id then some u else none
  | _ => none

/-- Partial updates that do not write to one field of one entity. -/
def Apart : Dispatch → Dispatch → Prop
  | guildUpdate u, guildUpdate v => u.id = v.id → u.Apart v
  | channelUpdate u, channelUpdate v => u.id = v.id → u.Apart v
  | memberUpdate u, memberUpdate v => u.id = v.id → u.Apart v
  | presenceUpdate u, presenceUpdate v => u.id? = v.id? → u.Apart v
  | _, _ => True

end Dispatch

namespace Store

def follow (s : Store) (ds : List Dispatch) : Store := ds.foldl (fun s d => s.step (.dispatch d)) s

def accepted (s : Store) : List Dispatch → List Dispatch
  | [] => []
  | d :: ds =>
    match s.update d with
    | .ok (t, _) => d :: t.accepted ds
    | .error _ => s.accepted ds

theorem follow_cons (s : Store) (d : Dispatch) (ds : List Dispatch) :
    s.follow (d :: ds) = (s.step (.dispatch d)).follow ds := rfl

theorem follow_cons_ok {s t : Store} {d : Dispatch} {e : Event} (taken : s.update d = .ok (t, e))
    (ds : List Dispatch) : s.follow (d :: ds) = t.follow ds := by
  rw [follow_cons, step_dispatch taken]

theorem accepted_cons_ok {s t : Store} {d : Dispatch} {e : Event} (taken : s.update d = .ok (t, e))
    (ds : List Dispatch) : s.accepted (d :: ds) = d :: t.accepted ds := by
  rw [accepted, taken]

end Store
end GuildFeed
