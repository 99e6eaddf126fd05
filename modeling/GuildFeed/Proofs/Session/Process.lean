import GuildFeed.Cluster
import GuildFeed.Proofs.Store.Reachable

namespace GuildFeed

variable {s : Session} {h : Hub}

namespace Session

theorem process_undecodable {e : Envelope} {err : DecodeError} (decodes : e.decode = .error err) :
    s.process h e = (s, { h with counters := h.counters.countFailure }, .undecodable err) := by
  rw [process, decodes]

theorem process_signal {e : Envelope} {signal : Signal} (decodes : e.decode = .ok (.signal signal)) :
    s.process h e = (s, h, .forwarded signal) := by
  rw [process, decodes]

theorem process_dispatch {e : Envelope} {sequence : Option UInt64} {d : Dispatch}
    (decodes : e.decode = .ok (.dispatch sequence d)) :
    s.process h e = (((s.record sequence).apply h d).1, ((s.record sequence).apply h d).2.1,
      .ofResult ((s.record sequence).apply h d).2.2) := by
  simp only [process, decodes]
  generalize (s.record sequence).apply h d = p
  obtain ⟨t, k, r⟩ := p
  cases r <;> rfl

def prepared (s : Session) (h : Hub) (d : Dispatch) : Session × Hub :=
  s.prepare { h with counters := h.counters.countDispatch d } d

theorem apply_ok {d : Dispatch} {store : Store} {e : Event}
    (accepted : (s.prepared h d).2.store.update d = .ok (store, e)) :
    s.apply h d = ((s.prepared h d).1.track e,
      { (s.prepared h d).2 with store, bus := (s.prepared h d).2.bus.publish e }, .ok e) := by
  unfold prepared at accepted
  simp only [apply, accepted]
  rfl

theorem apply_error {d : Dispatch} {err : StoreError}
    (refused : (s.prepared h d).2.store.update d = .error err) :
    s.apply h d = ((s.prepared h d).1,
      { (s.prepared h d).2 with counters := (s.prepared h d).2.counters.countSkip }, .error err) := by
  unfold prepared at refused
  simp only [apply, refused]
  rfl

theorem prepared_of_refused {d : Dispatch} {err : StoreError} {store : Store}
    (refused : store.update d = .error err) :
    s.prepared h d = (s, { h with counters := h.counters.countDispatch d }) := by
  cases d with
  | ready r => cases refused
  | _ => rfl

def follow (s : Session) : Dispatch → Session
  | .ready r => { s with owned := .ofList r.listed }
  | .guildCreate g => if g.unavailable then s else { s with owned := s.owned.insert g.id }
  | .guildDelete n => if n.unavailable then s else { s with owned := s.owned.erase n.id }
  | _ => s

theorem track_of_update {store t : Store} {d : Dispatch} {e : Event} (accepted : store.update d = .ok (t, e))
    (s : Session) : s.track e = s.follow d := by
  cases d with
  | ready r =>
    obtain ⟨⟩ := accepted
    rfl
  | guildCreate g =>
    have told : (store.onGuildCreate g).2 = e := congrArg Prod.snd (Except.ok.inj accepted)
    subst told
    cases down : g.unavailable with
    | true => simp only [follow, Store.onGuildCreate, down, if_true, track]
    | false => simp only [follow, Store.onGuildCreate, down, Bool.false_eq_true, if_false, track, GuildEntry.ofGuild]
  | guildDelete n =>
    have told : (store.onGuildDelete n).2 = e := congrArg Prod.snd (Except.ok.inj accepted)
    subst told
    cases down : n.unavailable with
    | true => simp only [follow, Store.onGuildDelete, down, if_true, track]
    | false => simp only [follow, Store.onGuildDelete, down, Bool.false_eq_true, if_false, track]
  | channelCreate c =>
    obtain ⟨-, -, rfl⟩ := Store.onChannelCreate_ok.1 accepted
    rfl
  | channelUpdate u => obtain ⟨-, ⟨_, -, -, rfl⟩ | ⟨_, -, -, -, rfl⟩⟩ := Store.onChannelUpdate_ok.1 accepted <;> rfl
  | guildUpdate u =>
    obtain ⟨_, -, -, rfl⟩ := Store.onGuildUpdate_ok.1 accepted
    rfl
  | emojisUpdate u =>
    obtain ⟨-, told⟩ := Store.require_bind_ok.1 accepted
    obtain ⟨-, rfl⟩ := Prod.mk.inj (Except.ok.inj told)
    rfl
  | memberAdd a =>
    obtain ⟨-, rfl, -⟩ := Store.onMemberAdd_ok.1 accepted
    rfl
  | membersChunk c =>
    obtain ⟨-, -, rfl⟩ := Store.onMembersChunk_ok.1 accepted
    rfl
  | memberUpdate u => obtain ⟨-, ⟨_, -, -, rfl⟩ | ⟨-, -, rfl⟩⟩ := Store.onMemberUpdate_ok.1 accepted <;> rfl
  | presenceUpdate u =>
    obtain ⟨_, -, -, -, rfl⟩ := Store.onPresenceUpdate_ok.1 accepted
    rfl
  | roleCreate r =>
    obtain ⟨-, -, rfl⟩ := Store.onRoleCreate_ok.1 accepted
    rfl
  | roleUpdate r =>
    obtain ⟨-, -, rfl⟩ := Store.onRoleUpdate_ok.1 accepted
    rfl
  | roleDelete r =>
    have told : (store.onRoleDelete r).2 = e := congrArg Prod.snd (Except.ok.inj accepted)
    subst told
    unfold Store.onRoleDelete
    split <;> rfl
  | voiceStateUpdate v =>
    obtain ⟨_, -, -, -, rfl⟩ := Store.onVoiceStateUpdate_ok.1 accepted
    rfl
  | _ =>
    obtain ⟨⟩ := accepted
    rfl

theorem highest_track (s : Session) (e : Event) : (s.track e).highest = s.highest := by
  unfold track
  split <;> rfl

theorem highest_foldl_drop (gs : List GuildId) (p : Session × Hub) :
    (gs.foldl (fun (s, h) g => s.drop h g) p).1.highest = p.1.highest := by
  induction gs generalizing p with
  | nil => rfl
  | cons g gs ih =>
    rw [List.foldl_cons, ih]
    exact highest_track p.1 _

theorem highest_prepared (s : Session) (h : Hub) (d : Dispatch) : (s.prepared h d).1.highest = s.highest := by
  cases d with
  | ready r => exact highest_foldl_drop _ _
  | _ => rfl

theorem highest_apply (s : Session) (h : Hub) (d : Dispatch) : (s.apply h d).1.highest = s.highest := by
  cases result : (s.prepared h d).2.store.update d with
  | ok p =>
    rw [apply_ok result, highest_track]
    exact highest_prepared s h d
  | error err =>
    rw [apply_error result]
    exact highest_prepared s h d

theorem reachable_foldl_drop (gs : List GuildId) {p : Session × Hub} (reachable : p.2.store.Reachable) :
    (gs.foldl (fun (s, h) g => s.drop h g) p).2.store.Reachable := by
  induction gs generalizing p with
  | nil => exact reachable
  | cons g gs ih => exact ih (reachable.step (.dispatch (.guildDelete ⟨g, false⟩)))

theorem reachable_prepared (reachable : h.store.Reachable) (s : Session) (d : Dispatch) :
    (s.prepared h d).2.store.Reachable := by
  cases d with
  | ready r => exact reachable_foldl_drop _ reachable
  | _ => exact reachable

theorem reachable_apply (reachable : h.store.Reachable) (s : Session) (d : Dispatch) :
    (s.apply h d).2.1.store.Reachable := by
  have ready := reachable_prepared reachable s d
  cases result : (s.prepared h d).2.store.update d with
  | ok p =>
    have next := ready.step (.dispatch d)
    rw [Store.step_dispatch result] at next
    rw [apply_ok result]
    exact next
  | error err =>
    rw [apply_error result]
    exact ready

theorem reachable_process (reachable : h.store.Reachable) (s : Session) (e : Envelope) :
    (s.process h e).2.1.store.Reachable := by
  cases decodes : e.decode with
  | error err =>
    rw [process_undecodable decodes]
    exact reachable
  | ok message =>
    cases message with
    | signal signal =>
      rw [process_signal decodes]
      exact reachable
    | dispatch sequence d =>
      rw [process_dispatch decodes]
      exact reachable_apply reachable (s.record sequence) d

end Session

namespace Cluster

theorem Reachable.store {ι : Type} [DecidableEq ι] {c : Cluster ι} (reachable : c.Reachable) :
    c.hub.store.Reachable := by
  induction reachable with
  | empty => exact .empty
  | process _ i e ih => exact Session.reachable_process ih _ e
  | apply _ i d ih => exact Session.reachable_apply ih _ d
  | command _ x ih => exact ih.step x
  | bus _ b ih => exact ih

end Cluster
end GuildFeed
