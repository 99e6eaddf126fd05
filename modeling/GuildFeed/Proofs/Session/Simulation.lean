import GuildFeed.Proofs.Session.Process
import GuildFeed.Store.Footprint

namespace GuildFeed

inductive Matched (R : Session × Hub → Session × Hub → Prop) (p q : Session × Hub) (d : Dispatch) : Prop
  | accepted {t t' : Store} {e : Event} (left : p.2.store.update d = .ok (t, e))
    (right : q.2.store.update d = .ok (t', e)) (related : R (p.1.accept p.2 t e) (q.1.accept q.2 t' e))
  | refused {err : StoreError} (left : p.2.store.update d = .error err) (right : q.2.store.update d = .error err)

structure Simulation (admits : Dispatch → Prop) (R : Session × Hub → Session × Hub → Prop) : Prop where
  owned {p q} : R p q → p.1.owned = q.1.owned
  drops {p q} : R p q → ∀ g ∈ p.1.owned, admits (.guildDelete ⟨g, false⟩)
  counted {p q} : R p q → ∀ a b, R (p.1, { p.2 with counters := a }) (q.1, { q.2 with counters := b })
  recorded {p q} : R p q → ∀ sequence, R (p.1.record sequence, p.2) (q.1.record sequence, q.2)
  matched {p q d} : R p q → admits d → Matched R p q d

namespace Simulation

variable {R : Session × Hub → Session × Hub → Prop} {admits : Dispatch → Prop} {p q : Session × Hub}

theorem drop (sim : Simulation admits R) (related : R p q) {g : GuildId}
    (admitted : admits (.guildDelete ⟨g, false⟩)) : R (p.1.drop p.2 g) (q.1.drop q.2 g) := by
  cases sim.matched related admitted with
  | accepted left right related =>
    have left : p.2.store.onGuildDelete ⟨g, false⟩ = _ := Except.ok.inj left
    have right : q.2.store.onGuildDelete ⟨g, false⟩ = _ := Except.ok.inj right
    rw [Session.drop, Session.drop, left, right]
    exact related
  | refused left right => cases left

theorem foldl_drop (sim : Simulation admits R) (related : R p q) {gs : List GuildId}
    (admitted : ∀ g ∈ gs, admits (.guildDelete ⟨g, false⟩)) :
    R (gs.foldl (fun (s, h) g => s.drop h g) p) (gs.foldl (fun (s, h) g => s.drop h g) q) := by
  induction gs generalizing p q with
  | nil => exact related
  | cons g gs ih =>
    exact ih (sim.drop related (admitted g List.mem_cons_self)) fun h mem => admitted h (List.mem_cons_of_mem g mem)

theorem prepared (sim : Simulation admits R) (related : R p q) (d : Dispatch) :
    R (p.1.prepared p.2 d) (q.1.prepared q.2 d) := by
  have counted := sim.counted related (p.2.counters.countDispatch d) (q.2.counters.countDispatch d)
  cases d with
  | ready r =>
    have gone : p.1.gone r = q.1.gone r := by rw [Session.gone, Session.gone, sim.owned related]
    have dropped := sim.foldl_drop counted fun g (mem : g ∈ p.1.gone r) =>
      sim.drops related g (Std.ExtTreeSet.mem_toList.1 (List.mem_filter.1 mem).1)
    nth_rewrite 2 [gone] at dropped
    exact dropped
  | _ => exact counted

theorem apply (sim : Simulation admits R) (related : R p q) {d : Dispatch} (admitted : admits d) :
    (p.1.apply p.2 d).2.2 = (q.1.apply q.2 d).2.2 ∧
      R ((p.1.apply p.2 d).1, (p.1.apply p.2 d).2.1) ((q.1.apply q.2 d).1, (q.1.apply q.2 d).2.1) := by
  have ready := sim.prepared related d
  cases sim.matched ready admitted with
  | accepted left right related =>
    rw [Session.apply_ok left, Session.apply_ok right]
    exact ⟨rfl, related⟩
  | refused left right =>
    rw [Session.apply_error left, Session.apply_error right]
    exact ⟨rfl, sim.counted ready _ _⟩

theorem process (sim : Simulation admits R) (related : R p q) {e : Envelope}
    (admitted : ∀ d, e.dispatch? = some d → admits d) :
    (p.1.process p.2 e).2.2 = (q.1.process q.2 e).2.2 ∧
      R ((p.1.process p.2 e).1, (p.1.process p.2 e).2.1) ((q.1.process q.2 e).1, (q.1.process q.2 e).2.1) := by
  cases decodes : e.decode with
  | error err =>
    rw [Session.process_undecodable decodes, Session.process_undecodable decodes]
    exact ⟨rfl, sim.counted related _ _⟩
  | ok message =>
    cases message with
    | signal signal =>
      rw [Session.process_signal decodes, Session.process_signal decodes]
      exact ⟨rfl, related⟩
    | dispatch sequence d =>
      have brings : e.dispatch? = some d := by rw [Envelope.dispatch?, decodes]
      obtain ⟨same, related⟩ := sim.apply (sim.recorded related sequence) (admitted d brings)
      rw [Session.process_dispatch decodes, Session.process_dispatch decodes]
      exact ⟨congrArg Outcome.ofResult same, related⟩

end Simulation
end GuildFeed
