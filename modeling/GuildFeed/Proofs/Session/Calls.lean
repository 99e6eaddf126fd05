import GuildFeed.Proofs.Session.Process
import GuildFeed.Proofs.Store.Availability

namespace GuildFeed

theorem Dispatch.ready_or_old (d : Dispatch) : (∃ r, d = .ready r) ∨ ∀ r, d ≠ .ready r := by
  cases d with
  | ready r => exact .inl ⟨r, rfl⟩
  | _ => exact .inr fun _ => Dispatch.noConfusion

namespace Session

variable {s t : Session} {h : Hub}

theorem mem_gone {r : Ready} {g : GuildId} : g ∈ s.gone r ↔ g ∈ s.owned ∧ g ∉ r.listed := by
  rw [gone, List.mem_filter, Std.ExtTreeSet.mem_toList, decide_eq_true_eq]

def left (s : Session) : Dispatch → List GuildId
  | .ready r => s.gone r
  | _ => []

theorem left_congr (same : s.owned = t.owned) (d : Dispatch) : s.left d = t.left d := by
  cases d with
  | ready r => rw [left, left, gone, gone, same]
  | _ => rfl

theorem left_of_old {d : Dispatch} (old : ∀ r, d ≠ .ready r) (s : Session) : s.left d = [] := by
  cases d with
  | ready r => exact absurd rfl (old r)
  | _ => rfl

theorem owned_follow_congr (same : s.owned = t.owned) (d : Dispatch) : (s.follow d).owned = (t.follow d).owned := by
  cases d with
  | ready r => rfl
  | guildCreate g => simp only [follow, apply_ite Session.owned, same]
  | guildDelete n => simp only [follow, apply_ite Session.owned, same]
  | _ => exact same

section
variable {a : Availability} {r : Ready} {g : GuildId}

theorem mem_cached_ready :
    g ∈ (((s.left (.ready r)).foldl Availability.depart a).follow (.ready r)).cached ↔
      g ∉ r.listed ∧ g ∉ s.owned ∧ g ∈ a.cached := by
  simp only [Availability.follow, Availability.mem_cached_foldl_fail, left,
    Availability.mem_cached_foldl_depart, mem_gone]
  by_cases listed : g ∈ r.listed <;> simp [listed]

theorem mem_unavailable_ready :
    g ∈ (((s.left (.ready r)).foldl Availability.depart a).follow (.ready r)).unavailable ↔
      g ∈ r.listed ∨ g ∉ s.owned ∧ g ∈ a.unavailable := by
  simp only [Availability.follow, Availability.mem_unavailable_foldl_fail, left,
    Availability.mem_unavailable_foldl_depart, mem_gone]
  by_cases listed : g ∈ r.listed <;> simp [listed]

end

theorem follow_of_refused {store : Store} {d : Dispatch} {err : StoreError} (refused : store.update d = .error err) :
    (∀ s : Session, s.follow d = s) ∧ ∀ a : Availability, a.follow d = a := by
  cases d with
  | ready r => cases refused
  | guildCreate g => cases refused
  | guildDelete n => cases refused
  | _ => exact ⟨fun _ => rfl, fun _ => rfl⟩

theorem owned_apply (s : Session) (h : Hub) (d : Dispatch) : (s.apply h d).1.owned = (s.follow d).owned := by
  cases result : (s.prepared h d).2.store.update d with
  | ok p =>
    rw [apply_ok result, track_of_update result]
    cases d <;> rfl
  | error err =>
    rw [apply_error result, prepared_of_refused result, (follow_of_refused result).1]

theorem availability_foldl_drop (gs : List GuildId) (p : Session × Hub) :
    (gs.foldl (fun (s, h) g => s.drop h g) p).2.store.availability =
      gs.foldl Availability.depart p.2.store.availability := by
  induction gs generalizing p with
  | nil => rfl
  | cons g gs ih =>
    have dropped : (p.1.drop p.2 g).2.store.availability = p.2.store.availability.depart g :=
      Store.availability_guildDelete p.2.store ⟨g, false⟩
    rw [List.foldl_cons, ih, List.foldl_cons, dropped]

theorem availability_prepared (s : Session) (h : Hub) (d : Dispatch) :
    (s.prepared h d).2.store.availability = (s.left d).foldl Availability.depart h.store.availability := by
  cases d with
  | ready r => exact availability_foldl_drop (s.gone r) _
  | _ => rfl

theorem availability_apply (reachable : h.store.Reachable) (s : Session) (d : Dispatch) :
    (s.apply h d).2.1.store.availability =
      ((s.left d).foldl Availability.depart h.store.availability).follow d := by
  have own := (reachable_prepared reachable s d).ownership
  rw [← availability_prepared]
  cases result : (s.prepared h d).2.store.update d with
  | ok p =>
    rw [apply_ok result]
    exact Store.availability_update own result
  | error err =>
    rw [apply_error result, (follow_of_refused result).2]

end Session

namespace Cluster

variable {ι : Type} [DecidableEq ι] {c : Cluster ι} {x : Call ι}

theorem after_self (c : Cluster ι) (i : ι) (h : Hub) : c.after i (c.sessions i) h = { c with hub := h } := by
  have same : (fun j => if j = i then c.sessions i else c.sessions j) = c.sessions := by
    funext j
    split
    · next eq => rw [eq]
    · rfl
  rw [after, same]

theorem call_none (silent : x.dispatch? = none) :
    ∃ counters, (c.call x).1 = { c with hub.counters := counters } := by
  cases x with
  | apply i d => cases silent
  | process i e =>
    have silent : e.dispatch? = none := silent
    unfold Envelope.dispatch? at silent
    cases decodes : e.decode with
    | error err =>
      refine ⟨c.hub.counters.countFailure, ?_⟩
      simp only [call, process, Session.process_undecodable decodes, after_self]
    | ok message =>
      cases message with
      | signal signal =>
        refine ⟨c.hub.counters, ?_⟩
        simp only [call, process, Session.process_signal decodes, after_self]
      | dispatch sequence d =>
        rw [decodes] at silent
        cases silent

theorem call_some {d : Dispatch} (brings : x.dispatch? = some d) :
    ∃ s : Session, s.owned = (c.sessions x.shard).owned ∧
      c.call x = (c.after x.shard (s.apply c.hub d).1 (s.apply c.hub d).2.1, .ofResult (s.apply c.hub d).2.2) := by
  cases x with
  | apply i d =>
    cases brings
    exact ⟨c.sessions i, rfl, rfl⟩
  | process i e =>
    have brings : e.dispatch? = some d := brings
    unfold Envelope.dispatch? at brings
    cases decodes : e.decode with
    | error err =>
      rw [decodes] at brings
      cases brings
    | ok message =>
      cases message with
      | signal signal =>
        rw [decodes] at brings
        cases brings
      | dispatch sequence d =>
        rw [decodes] at brings
        cases brings
        refine ⟨(c.sessions i).record sequence, rfl, ?_⟩
        simp only [call, process, Session.process_dispatch decodes]
        rfl

theorem owned_call_none (silent : x.dispatch? = none) (i : ι) :
    ((c.call x).1.sessions i).owned = (c.sessions i).owned := by
  obtain ⟨counters, same⟩ := call_none (c := c) silent
  rw [same]

theorem owned_call_some {d : Dispatch} (brings : x.dispatch? = some d) (i : ι) :
    ((c.call x).1.sessions i).owned =
      if i = x.shard then ((c.sessions i).follow d).owned else (c.sessions i).owned := by
  obtain ⟨s, owned, applied⟩ := call_some (c := c) brings
  rw [applied]
  by_cases same : i = x.shard
  · subst same
    simp only [after, if_true, Session.owned_apply]
    exact Session.owned_follow_congr owned d
  · simp only [after, same, if_false]

theorem availability_call_none (silent : x.dispatch? = none) :
    (c.call x).1.hub.store.availability = c.hub.store.availability := by
  obtain ⟨counters, same⟩ := call_none (c := c) silent
  rw [same]

theorem availability_call_some (reachable : c.Reachable) {d : Dispatch} (brings : x.dispatch? = some d) :
    (c.call x).1.hub.store.availability =
      (((c.sessions x.shard).left d).foldl Availability.depart c.hub.store.availability).follow d := by
  obtain ⟨s, owned, applied⟩ := call_some (c := c) brings
  rw [applied, ← Session.left_congr owned]
  exact Session.availability_apply reachable.store s d

theorem reachable_call (reachable : c.Reachable) (x : Call ι) : (c.call x).1.Reachable := by
  cases x with
  | process i e => exact reachable.process i e
  | apply i d => exact reachable.apply i d

end Cluster
end GuildFeed
