import GuildFeed.Proofs.Session.Process
import GuildFeed.Proofs.Store.Deletion

namespace GuildFeed

structure MemberEntry.Relieved (r : RoleId) (old new : MemberEntry) : Prop where
  gone : r ∉ new.roles
  order : new.roles.Sublist old.roles
  count : ∀ q, q ≠ r → new.roles.count q = old.roles.count q
  rest : new = { old with roles := new.roles }

theorem MemberEntry.relieved_strip (m : MemberEntry) (r : RoleId) : m.Relieved r (m.strip r) where
  gone := by simp [strip]
  order := List.filter_sublist
  count q other := List.count_filter (by simp [other])
  rest := rfl

namespace Store

variable {s t : Store}

structure Relieves (s : Store) (e : RoleEntry) (t : Store) : Prop where
  gone : t.roles.get? e.id = none
  otherRoles : ∀ q, q ≠ e.id → t.roles.get? q = s.roles.get? q
  unlisted : t.roles.isListed e.guildId e.id = false
  otherLists : ∀ h q, (h, q) ≠ (e.guildId, e.id) → t.roles.isListed h q = s.roles.isListed h q
  roleLists : ∀ h, h ∈ t.roles.lists ↔ h ∈ s.roles.lists
  members : ∀ u, Option.Rel (MemberEntry.Relieved e.id) (s.members.get? ⟨e.guildId, u⟩) (t.members.get? ⟨e.guildId, u⟩)
  otherMembers : ∀ id, id.guild ≠ e.guildId → t.members.get? id = s.members.get? id
  memberLists : t.members.lists = s.members.lists
  rest : t = { s with roles := t.roles, members := t.members }

theorem relieves_deleteRole (own : s.Ownership) {e : RoleEntry} (found : s.roles.get? e.id = some e) :
    s.Relieves e (s.deleteRole e.id) := by
  have roles := congrArg Store.roles (deleteRole_eq found)
  exact
    { gone := role?_deleteRole s e.id
      otherRoles := fun q other => by
        rw [roles, Shelf.get?_take, if_neg (Ne.symm other)]
      unlisted := by
        rw [roles, Bool.eq_false_iff, ne_eq, Shelf.isListed_take]
        exact fun listed => listed.2 ⟨rfl, rfl⟩
      otherLists := fun h q other => by
        rw [roles, Bool.eq_iff_iff, Shelf.isListed_take, and_iff_left]
        rintro ⟨home, same⟩
        exact other (Prod.ext (Option.some.inj home).symm same.symm)
      roleLists := fun h => by
        rw [roles, Shelf.mem_lists_take]
      members := fun u => by
        rw [members_deleteRole own found, if_pos rfl]
        cases s.members.get? ⟨e.guildId, u⟩ with
        | none => exact .none
        | some m => exact .some (m.relieved_strip e.id)
      otherMembers := fun id other => by
        rw [members_deleteRole own found, if_neg other]
      memberLists := by
        rw [deleteRole_eq found]
        rfl
      rest := by
        rw [deleteRole_eq found] }

/-- The dispatch takes the store to another one and is told by one event, also to all that hear of
it from a session. -/
def Emits (s : Store) (d : Dispatch) (t : Store) (e : Event) : Prop :=
  s.update d = .ok (t, e) ∧ ∀ (n : Session) (h : Hub), h.store = s →
    (n.apply h d).2.1.store = t ∧ (n.apply h d).2.1.bus = h.bus.publish e

theorem emits_roleDelete {d : RoleDelete} {e : Event} (accepted : s.update (.roleDelete d) = .ok (t, e)) :
    s.Emits (.roleDelete d) t e := by
  refine ⟨accepted, ?_⟩
  rintro n h rfl
  have applied := Session.apply_ok (s := n) (h := h) (d := .roleDelete d) accepted
  rw [applied]
  exact ⟨rfl, rfl⟩

/-- A role that the guild owns is deleted with all that comes of it, and any other is left alone. -/
theorem Reachable.role_deletion (reachable : s.Reachable) (g : GuildId) (r : RoleId) :
    (∀ e, s.roles.get? r = some e → e.guildId = g → ∃ t, s.Relieves e t ∧
      s.Emits (.roleDelete ⟨g, r⟩) t (.roleDeleted g r (some e)) ∧ s.remove (.role r) = (t, some (.role e))) ∧
    ((∀ e, s.roles.get? r = some e → e.guildId ≠ g) → s.Emits (.roleDelete ⟨g, r⟩) s (.roleDeleted g r none)) := by
  have own := reachable.ownership
  constructor
  · rintro e found rfl
    have key : e.id = r := own.roles.key_eq found
    subst key
    have owned : (s.roles.get? e.id).filter (·.guildId = e.guildId) = some e := by simp [found, Option.filter_some]
    refine ⟨s.deleteRole e.id, relieves_deleteRole own found, emits_roleDelete ?_, ?_⟩
    · simp [update, onRoleDelete, owned]
    · simp [remove, without, get?, found]
  · intro foreign
    have unknown : (s.roles.get? r).filter (·.guildId = g) = none := by
      rw [Option.filter_eq_none_iff]
      intro e found
      simpa using foreign e found
    apply emits_roleDelete
    simp [update, onRoleDelete, unknown]

def doubled : List Command :=
  let guild (g : GuildId) (roles : List Role) (listed : List RoleId) : Command :=
    .dispatch (.guildCreate { Guild.bare g with roles, members := [{ Member.bare ⟨100⟩ with roles := listed }] })
  [guild ⟨1⟩ [.bare ⟨5⟩, .bare ⟨6⟩] [⟨5⟩, ⟨6⟩, ⟨5⟩, ⟨6⟩], guild ⟨2⟩ [] [⟨6⟩, ⟨5⟩]]

theorem role_deletion_doubled :
    let s := run doubled
    let r := RoleEntry.ofRole (.bare ⟨5⟩) ⟨1⟩
    (∃ t, s.Relieves r t ∧ s.Emits (.roleDelete ⟨⟨1⟩, ⟨5⟩⟩) t (.roleDeleted ⟨1⟩ ⟨5⟩ (some r)) ∧
      s.remove (.role ⟨5⟩) = (t, some (.role r))) ∧
    s.Emits (.roleDelete ⟨⟨2⟩, ⟨5⟩⟩) s (.roleDeleted ⟨2⟩ ⟨5⟩ none) ∧
    ((s.remove (.role ⟨5⟩)).1.members.get? ⟨⟨1⟩, ⟨100⟩⟩).map (·.roles) = some [⟨6⟩, ⟨6⟩] ∧
    ((s.remove (.role ⟨5⟩)).1.members.get? ⟨⟨2⟩, ⟨100⟩⟩).map (·.roles) = some [⟨6⟩, ⟨5⟩] := by
  intro s r
  have found : s.roles.get? ⟨5⟩ = some r := by decide +kernel
  refine ⟨?_, ?_, by decide +kernel, by decide +kernel⟩
  · exact ((reachable_run doubled).role_deletion ⟨1⟩ ⟨5⟩).1 r found rfl
  · refine ((reachable_run doubled).role_deletion ⟨2⟩ ⟨5⟩).2 fun e known => ?_
    have same : r = e := Option.some.inj (found.symm.trans known)
    subst same
    decide

end Store
end GuildFeed
