import GuildFeed.Proofs.Session.Simulation
import GuildFeed.Proofs.Store.InPlace
import GuildFeed.Proofs.Store.Refusal

namespace GuildFeed

/-- Two sessions that will do the same from here on, and if `told` have also told the same. -/
structure Alike (told : Prop) (p q : Session × Hub) : Prop where
  owned : p.1.owned = q.1.owned
  store : p.2.store = q.2.store
  bus : told → p.2.bus = q.2.bus

namespace Alike

variable {told : Prop} {p q : Session × Hub}

theorem rfl : Alike told p p := ⟨Eq.refl _, Eq.refl _, fun _ => Eq.refl _⟩

theorem owned_track (same : p.1.owned = q.1.owned) (e : Event) :
    (p.1.track e).owned = (q.1.track e).owned := by
  unfold Session.track
  split
  · exact Eq.refl _
  · next guild _ => exact congrArg (fun owned => owned.insert guild.id) same
  · next id _ => exact congrArg (fun owned => owned.erase id) same
  · exact same

theorem simulation (told : Prop) : Simulation (fun _ => True) (Alike told) where
  owned alike := alike.owned
  drops _ _ _ := trivial
  counted alike _ _ := { alike with }
  recorded alike _ := { alike with }
  matched {p q d} alike _ := by
    cases result : p.2.store.update d with
    | ok changed =>
      have result' := result
      rw [alike.store] at result'
      exact .accepted result result'
        { owned := owned_track alike.owned changed.2
          store := Eq.refl _
          bus := fun t => congrArg (·.publish changed.2) (alike.bus t) }
    | error err =>
      have result' := result
      rw [alike.store] at result'
      exact .refused result result'

theorem process (alike : Alike told p q) (e : Envelope) :
    (p.1.process p.2 e).2.2 = (q.1.process q.2 e).2.2 ∧
      Alike told ((p.1.process p.2 e).1, (p.1.process p.2 e).2.1)
        ((q.1.process q.2 e).1, (q.1.process q.2 e).2.1) :=
  (simulation told).process alike fun _ _ => trivial

end Alike

namespace Session

variable {s : Session} {h : Hub}

theorem alike_process {e : Envelope} (fruitless : (s.process h e).2.2.isApplied = false) :
    Alike True ((s.process h e).1, (s.process h e).2.1) (s, h) := by
  cases decodes : e.decode with
  | error err =>
    rw [process_undecodable decodes]
    exact { Alike.rfl (p := (s, h)) with }
  | ok message =>
    cases message with
    | signal signal =>
      rw [process_signal decodes]
      exact Alike.rfl
    | dispatch sequence d =>
      rw [process_dispatch decodes] at fruitless ⊢
      cases result : ((s.record sequence).prepared h d).2.store.update d with
      | ok p =>
        rw [apply_ok result] at fruitless
        cases fruitless
      | error err =>
        -- what can be refused needs no preparation, so nothing was dropped before
        rw [apply_error result, prepared_of_refused result]
        exact { Alike.rfl (p := (s, h)) with }

theorem fruitful_cons (s : Session) (h : Hub) (e : Envelope) (es : List Envelope) :
    s.fruitful h (e :: es) = if (s.process h e).2.2.isApplied
      then e :: (s.process h e).1.fruitful (s.process h e).2.1 es
      else (s.process h e).1.fruitful (s.process h e).2.1 es := rfl

variable {p q : Session × Hub}

theorem fruitful_congr (alike : Alike False p q) (es : List Envelope) :
    p.1.fruitful p.2 es = q.1.fruitful q.2 es := by
  induction es generalizing p q with
  | nil => rfl
  | cons e es ih =>
    obtain ⟨same, next⟩ := alike.process e
    rw [fruitful_cons, fruitful_cons, same, ih next]

theorem alike_run_fruitful (alike : Alike True p q) (es : List Envelope) :
    Alike True ((p.1.run p.2 es).1, (p.1.run p.2 es).2.1)
      ((q.1.run q.2 (p.1.fruitful p.2 es)).1, (q.1.run q.2 (p.1.fruitful p.2 es)).2.1) := by
  induction es generalizing p q with
  | nil => exact alike
  | cons e es ih =>
    obtain ⟨same, next⟩ := alike.process e
    rw [fruitful_cons]
    cases applied : (p.1.process p.2 e).2.2.isApplied with
    | true => exact ih next
    | false =>
      have fruitless := alike_process applied
      exact ih
        { owned := fruitless.owned.trans alike.owned
          store := fruitless.store.trans alike.store
          bus := fun t => (fruitless.bus t).trans (alike.bus t) }

theorem heard_fruitful (s : Session) (h : Hub) (es : List Envelope) :
    s.heard h (s.fruitful h es) = s.heard h es := by
  let joined : Hub := { h with bus := h.bus.subscribe.1 }
  have deaf : Alike False (s, h) (s, joined) := ⟨rfl, rfl, False.elim⟩
  have alike := alike_run_fruitful (p := (s, joined)) Alike.rfl es
  have kept : s.fruitful h es = s.fruitful joined es := fruitful_congr deaf es
  have told : (s.run joined (s.fruitful joined es)).2.1.bus = (s.run joined es).2.1.bus :=
    (alike.bus trivial).symm
  change (s.run joined (s.fruitful h es)).2.1.bus.pending _ = (s.run joined es).2.1.bus.pending _
  rw [kept, told]

/-- Which dispatches are refused, that a refused one changes nothing although its program changes
the store in place, and that a run is the same without the envelopes that come to nothing. -/
theorem refused_leave_no_trace :
    (∀ (s : Store) (d : Dispatch) (err : StoreError), s.update d = .error err ↔ s.Refuses d err) ∧
      (∀ (s : Store) (d : Dispatch), (Store.InPlace.perform d).runs s =
        match s.update d with
        | .ok (t, e) => (.ok e, t)
        | .error err => (.error err, s)) ∧
      ∀ (s : Session) (h : Hub) (es : List Envelope),
        (s.run h (s.fruitful h es)).2.1.store = (s.run h es).2.1.store ∧
          (s.run h (s.fruitful h es)).1.owned = (s.run h es).1.owned ∧
          s.heard h (s.fruitful h es) = s.heard h es ∧
          (s.run h (s.fruitful h es)).2.1.bus = (s.run h es).2.1.bus := by
  refine ⟨fun s d err => Store.update_error_iff, fun s d => ?_, fun s h es => ?_⟩
  · rw [Store.InPlace.runs_perform]
    rfl
  · have alike := alike_run_fruitful (p := (s, h)) Alike.rfl es
    exact ⟨alike.store.symm, alike.owned.symm, heard_fruitful s h es, (alike.bus trivial).symm⟩

end Session
end GuildFeed
