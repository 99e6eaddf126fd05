import GuildFeed.Gateway

namespace GuildFeed

namespace Session

theorem run_append (s : Session) (h : Hub) (es fs : List Envelope) :
    s.run h (es ++ fs) =
      let first := s.run h es
      let rest := first.1.run first.2.1 fs
      (rest.1, rest.2.1, first.2.2 ++ rest.2.2) := by
  induction es generalizing s h with
  | nil => rfl
  | cons e es ih =>
    simp only [List.cons_append, run, ih]

end Session

namespace Intake

theorem foldl_handle (i : Intake) (es : List Envelope) :
    es.foldl handle i =
      { i with
        session := (i.session.run i.hub es).1
        hub := (i.session.run i.hub es).2.1
        control := i.control ++ (i.session.run i.hub es).2.2.filterMap Outcome.control? } := by
  induction es generalizing i with
  | nil => simp [Session.run]
  | cons e es ih =>
    rw [List.foldl_cons, ih]
    simp only [handle, Session.run, List.append_assoc]
    cases told : (i.session.process i.hub e).2.2.control? <;> simp [told]

theorem step_of_waiting {i : Intake} {e : Envelope} {es : List Envelope} (first : i.waiting = e :: es) :
    i.step = ({ i with waiting := es } : Intake).handle e := by
  rw [step, first]

end Intake

namespace Gateway

variable {g k l : Gateway} {a : Act} {acts : List Act} {h : Hub}

/-- Between two states of a gateway some envelopes were sent and some applied. -/
structure Advances (g : Gateway) (sent applied : List Envelope) (k : Gateway) : Prop where
  queue : g.intake.waiting ++ sent = applied ++ k.intake.waiting
  session : k.intake.session = (g.intake.session.run g.intake.hub applied).1
  hub : k.intake.hub = (g.intake.session.run g.intake.hub applied).2.1
  control : k.heard ++ k.intake.control =
    g.heard ++ g.intake.control ++ (g.intake.session.run g.intake.hub applied).2.2.filterMap Outcome.control?

theorem advances_idle (waiting : k.intake.waiting = g.intake.waiting) (session : k.intake.session = g.intake.session)
    (hub : k.intake.hub = g.intake.hub) (control : k.heard ++ k.intake.control = g.heard ++ g.intake.control) :
    Advances g [] [] k where
  queue := by rw [waiting, List.append_nil, List.nil_append]
  session := session
  hub := hub
  control := by simpa [Session.run] using control

theorem advances_apply {e : Envelope} {es : List Envelope} (first : g.intake.waiting = e :: es)
    (intake : k.intake = g.intake.step) (heard : k.heard = g.heard) : Advances g [] [e] k := by
  have handled : k.intake = _ :=
    (intake.trans (Intake.step_of_waiting first)).trans (Intake.foldl_handle { g.intake with waiting := es } [e])
  constructor
  · rw [handled, first, List.append_nil]
    rfl
  · rw [handled]
  · rw [handled]
  · rw [handled, heard, List.append_assoc]

theorem Advances.trans {sent later applied after : List Envelope} (first : Advances g sent applied k)
    (rest : Advances k later after l) : Advances g (sent ++ later) (applied ++ after) l where
  queue := by rw [← List.append_assoc, first.queue, List.append_assoc, rest.queue, List.append_assoc]
  session := by rw [rest.session, first.session, first.hub, Session.run_append]
  hub := by rw [rest.hub, first.session, first.hub, Session.run_append]
  control := by
    rw [rest.control, first.control, first.session, first.hub, Session.run_append, List.filterMap_append,
      List.append_assoc, List.append_assoc]

theorem Step.advances (step : Step g a k) : Advances g a.sent?.toList a.applied?.toList k := by
  cases step with
  | send held room =>
    exact ⟨rfl, rfl, rfl, (List.append_nil _).symm⟩
  | hear taken first => exact advances_idle rfl rfl rfl (by simp [first])
  | apply receiving first => exact advances_apply first rfl rfl
  | drain draining first => exact advances_apply first rfl rfl
  | _ => exact advances_idle rfl rfl rfl rfl

theorem Runs.advances (run : Runs g acts k) :
    Advances g (acts.filterMap Act.sent?) (acts.filterMap Act.applied?) k := by
  induction run with
  | nil g => exact advances_idle rfl rfl rfl rfl
  | @cons g k l a acts step rest ih =>
    have single (f : Act → Option Envelope) : (a :: acts).filterMap f = (f a).toList ++ acts.filterMap f := by
      cases given : f a <;> simp [given]
    rw [single, single]
    exact step.advances.trans ih

structure Orderly (g : Gateway) : Prop where
  signalled : g.isSignalled = true → g.isHeld = false
  draining : g.phase = .draining → g.isSignalled = true
  ended : g.phase = .ended → g.isHeld = false ∧ g.intake.waiting = []

theorem orderly_fresh (s : Settings) (h : Hub) : (fresh s h).Orderly where
  signalled := nofun
  draining := nofun
  ended := nofun

theorem Orderly.step (orderly : g.Orderly) (step : Step g a k) : k.Orderly := by
  obtain ⟨signalled, draining, ended⟩ := orderly
  cases step with
  | send held room => exact ⟨signalled, draining, fun finished => by simp [(ended finished).1] at held⟩
  | takeControl held there => exact ⟨signalled, draining, ended⟩
  | hear taken first => exact ⟨signalled, draining, ended⟩
  | letGo held => exact ⟨fun _ => rfl, draining, fun finished => ⟨rfl, (ended finished).2⟩⟩
  | signal free => exact ⟨fun _ => free, fun _ => rfl, ended⟩
  | look watching calm => exact ⟨signalled, nofun, nofun⟩
  | close watching told => exact ⟨signalled, fun _ => told, nofun⟩
  | apply receiving first => exact ⟨signalled, nofun, nofun⟩
  | wait receiving => exact ⟨signalled, nofun, nofun⟩
  | finish receiving none free => exact ⟨signalled, nofun, fun _ => ⟨free, none⟩⟩
  | drain now first => exact ⟨signalled, draining, fun finished => by simp [now] at finished⟩
  | drained now none => exact ⟨signalled, nofun, fun _ => ⟨signalled (draining now), none⟩⟩

theorem Orderly.run (orderly : g.Orderly) (run : Runs g acts k) : k.Orderly := by
  induction run with
  | nil g => exact orderly
  | cons step rest ih => exact ih (orderly.step step)

def stepsLeft (g : Gateway) : Nat :=
  g.intake.waiting.length +
    match g.phase with
    | .receiving => 3
    | .watching => 2
    | .draining => 1
    | .ended => 0

theorem stepsLeft_le (g : Gateway) : g.stepsLeft ≤ g.intake.waiting.length + 3 := by
  unfold stepsLeft
  cases g.phase <;> simp

theorem length_waiting_step {i : Intake} {e : Envelope} {es : List Envelope} (first : i.waiting = e :: es) :
    i.waiting.length = i.step.waiting.length + 1 := by
  rw [Intake.step_of_waiting first, first]
  rfl

theorem Step.stepsLeft_lt (step : Step g a k) (loop : a.isOfLoop = true) (signalled : g.isSignalled = true) :
    k.isSignalled = true ∧ k.stepsLeft < g.stepsLeft := by
  cases step with
  | look watching calm => simp [calm] at signalled
  | close watching _ => exact ⟨signalled, by simp [stepsLeft, watching]⟩
  | apply receiving first => exact ⟨signalled, by simp [stepsLeft, receiving, length_waiting_step first]⟩
  | wait receiving => exact ⟨signalled, by simp [stepsLeft, receiving]⟩
  | finish receiving none free => exact ⟨signalled, by simp [stepsLeft, receiving]⟩
  | drain draining first => exact ⟨signalled, by simp [stepsLeft, draining, length_waiting_step first]⟩
  | drained draining none => exact ⟨signalled, by simp [stepsLeft, draining]⟩
  | _ => cases loop

theorem Runs.length_le (run : Runs g acts k) (loop : ∀ a ∈ acts, a.isOfLoop = true) (signalled : g.isSignalled = true) :
    acts.length ≤ g.stepsLeft := by
  -- the signal stays, so every step of the loop leaves fewer steps to take
  induction run with
  | nil g => exact Nat.zero_le _
  | cons step rest ih =>
    obtain ⟨own, others⟩ := List.forall_mem_cons.1 loop
    obtain ⟨still, less⟩ := step.stepsLeft_lt own signalled
    exact Nat.lt_of_le_of_lt (ih others still) less

theorem ended_or_step (signalled : g.isSignalled = true) :
    g.phase = .ended ∨ ∃ a k, a.isOfLoop = true ∧ Step g a k := by
  cases phase : g.phase with
  | watching => exact .inr ⟨_, _, rfl, .close phase signalled⟩
  | receiving => exact .inr ⟨_, _, rfl, .wait phase⟩
  | draining =>
    cases first : g.intake.waiting with
    | nil => exact .inr ⟨_, _, rfl, .drained phase first⟩
    | cons e es => exact .inr ⟨_, _, rfl, .drain phase first⟩
  | ended => exact .inl rfl

theorem Runs.settled {s : Settings} (run : Runs (fresh s h) acts g) (ended : g.phase = .ended) : g.Settled h acts := by
  have empty := (((orderly_fresh s h).run run).ended ended).2
  have advances := run.advances
  have once : acts.filterMap Act.applied? = acts.filterMap Act.sent? := by
    have queue := advances.queue
    rw [empty, List.append_nil] at queue
    exact queue.symm
  rw [once] at advances
  exact ⟨once, empty, advances.session, advances.hub, by simpa [fresh] using advances.control⟩

end Gateway
end GuildFeed
