import GuildFeed.Proofs.Session.Simulation
import GuildFeed.Proofs.Store.Footprint

namespace GuildFeed

/-- Two sessions that are the same, with stores that tell the same of the scope in which they own
guilds. Outside of it the first store is as it was. -/
structure Twins (scope : EntityKey → Prop) (before : Store) (p q : Session × Hub) : Prop where
  session : p.1 = q.1
  owned : ∀ g ∈ p.1.owned, scope (.guild g)
  tidy : p.2.store.Tidy scope
  inside : p.2.store.Agree scope q.2.store
  outside : p.2.store.Agree (¬ scope ·) before

namespace Session

theorem mem_follow {s : Session} {d : Dispatch} {g : GuildId} (mem : g ∈ (s.follow d).owned) :
    g ∈ s.owned ∨ .guild g ∈ d.footprint := by
  cases d with
  | ready r =>
    rw [follow, Std.ExtTreeSet.mem_ofList, List.contains_iff_mem] at mem
    exact .inr (List.mem_map_of_mem mem)
  | guildCreate created =>
    cases down : created.unavailable with
    | true =>
      simp only [follow, down, if_true] at mem
      exact .inl mem
    | false =>
      simp only [follow, down, Bool.false_eq_true, if_false, Std.ExtTreeSet.mem_insert] at mem
      rcases mem with same | mem
      · rw [← Std.LawfulEqCmp.eq_of_compare same]
        exact .inr List.mem_cons_self
      · exact .inl mem
  | guildDelete n =>
    cases down : n.unavailable with
    | true =>
      simp only [follow, down, if_true] at mem
      exact .inl mem
    | false =>
      simp only [follow, down, Bool.false_eq_true, if_false, Std.ExtTreeSet.mem_erase] at mem
      exact .inl mem.2
  | _ => exact .inl mem

end Session

namespace Twins

variable {scope : EntityKey → Prop} {before : Store} {p q : Session × Hub} {d : Dispatch}

theorem matched (twins : Twins scope before p q) (within : ∀ k ∈ d.footprint, scope k)
    (other : ∀ u, d ≠ .userUpdate u) : Matched (Twins scope before) p q d := by
  have same := Store.reads_update within other p.2.store q.2.store twins.tidy twins.inside
  have change := Store.local_dispatch within other
  cases result : p.2.store.update d with
  | error err =>
    cases result' : q.2.store.update d with
    | ok changed => simp [result, result', Except.map] at same
    | error err' =>
      obtain rfl : err = err' := by simpa [result, result', Except.map] using same
      exact .refused result result'
  | ok changed =>
    obtain ⟨t, e⟩ := changed
    cases result' : q.2.store.update d with
    | error err => simp [result, result', Except.map] at same
    | ok changed =>
      obtain ⟨t', e'⟩ := changed
      obtain rfl : e = e' := by simpa [result, result', Except.map] using same
      have tidy := change.tidy _ twins.tidy
      have inside := change.agree _ _ twins.tidy twins.inside
      have outside := (change.frame _ twins.tidy).trans twins.outside
      simp only [Store.step_dispatch result, Store.step_dispatch result'] at tidy inside outside
      have owned : ∀ g ∈ (p.1.track e).owned, scope (.guild g) := by
        intro g mem
        rw [Session.track_of_update result] at mem
        rcases Session.mem_follow mem with mem | mem
        · exact twins.owned g mem
        · exact within _ mem
      exact .accepted result result' ⟨congrArg (Session.track · e) twins.session, owned, tidy, inside, outside⟩

theorem simulation (scope : EntityKey → Prop) (before : Store) :
    Simulation (fun d => (∀ k ∈ d.footprint, scope k) ∧ ∀ u, d ≠ .userUpdate u) (Twins scope before) where
  owned twins := congrArg Session.owned twins.session
  drops twins g mem := by
    have within : ∀ k ∈ [EntityKey.guild g], scope k := by
      rintro k ⟨⟩
      · exact twins.owned g mem
      · contradiction
    exact ⟨within, nofun⟩
  counted twins _ _ := { twins with }
  recorded twins sequence := { twins with session := congrArg (Session.record · sequence) twins.session }
  matched twins admitted := twins.matched admitted.1 admitted.2

theorem process (twins : Twins scope before p q) {e : Envelope} (within : ∀ k ∈ e.footprint, scope k)
    (other : ∀ u, e.dispatch? ≠ some (.userUpdate u)) :
    (p.1.process p.2 e).2.2 = (q.1.process q.2 e).2.2 ∧
      Twins scope before ((p.1.process p.2 e).1, (p.1.process p.2 e).2.1)
        ((q.1.process q.2 e).1, (q.1.process q.2 e).2.1) := by
  refine (simulation scope before).process twins fun d brings => ?_
  rw [Envelope.footprint, brings] at within
  exact ⟨within, fun u user => other u (brings.trans (congrArg some user))⟩

end Twins
end GuildFeed
