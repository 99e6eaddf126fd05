import GuildFeed.Proofs.Gateway.Draining
import GuildFeed.Replay

namespace GuildFeed

namespace Intake

theorem stop_enqueue (i : Intake) (e : Envelope) : (i.enqueue e).stop = i.stop.handle e := by
  rw [stop, stop, enqueue, List.foldl_append]
  rfl

theorem stop_step (i : Intake) : i.step.stop = i.stop := by
  cases first : i.waiting with
  | nil => rw [step, first]
  | cons e es =>
    rw [step_of_waiting first, stop, stop, first]
    rfl

theorem stop_send (i : Intake) (e : Envelope) : (i.send e).stop = i.stop.handle e := by
  rw [send, stop_enqueue]
  split
  · rfl
  · rw [stop_step]

theorem run_eq_foldl (i : Intake) (es : List Envelope) : i.run es = es.foldl handle i.stop := by
  rw [run]
  induction es generalizing i with
  | nil => rfl
  | cons e es ih => rw [List.foldl_cons, ih, stop_send, List.foldl_cons]

theorem start_of_check {s : Settings} (valid : s.check = .ok ()) (h : Hub) :
    start s h = if s.queueCapacity.toNat ≤ mostRoom then .ok ⟨s, [], false, .empty, h, []⟩ else .error .tooMuchRoom := by
  simp only [start, valid]
  by_cases fits : s.queueCapacity.toNat ≤ mostRoom
  · rw [if_neg (Nat.not_lt.2 fits), if_pos fits]
  · rw [if_pos (Nat.not_le.1 fits), if_neg fits]

end Intake

namespace Settings

theorem ofEnvironment_eq (lookup : String → Option String) :
    ofEnvironment lookup =
      ((lookup capacityVariable).elim (.ok default.queueCapacity) readCapacity).bind fun capacity =>
        ((lookup clusterVariable).elim (.ok default.clusterId) readCluster).bind fun cluster =>
          (check ⟨capacity, cluster⟩).bind fun _ => .ok ⟨capacity, cluster⟩ := by
  unfold ofEnvironment
  cases lookup capacityVariable <;> cases lookup clusterVariable <;> rfl

theorem bind_eq_ok {α β : Type} {r : Except Fault α} {f : α → Except Fault β} {b : β} :
    r.bind f = .ok b ↔ ∃ a, r = .ok a ∧ f a = .ok b := by
  cases r <;> simp [Except.bind]

theorem check_of_ofEnvironment {lookup : String → Option String} {s : Settings}
    (accepted : ofEnvironment lookup = .ok s) : s.check = .ok () := by
  rw [ofEnvironment_eq] at accepted
  obtain ⟨room, -, accepted⟩ := bind_eq_ok.1 accepted
  obtain ⟨id, -, accepted⟩ := bind_eq_ok.1 accepted
  obtain ⟨_, valid, made⟩ := bind_eq_ok.1 accepted
  obtain rfl := Except.ok.inj made
  exact valid

end Settings

namespace Replay

variable {lookup : String → Option String} {input : Json.Octets} {s : Settings} {lines : List String}

def outcome (s : Settings) (lines : List String) : String :=
  (Session.run .empty .empty (envelopes lines)).2.1.metrics s.clusterId

theorem run_of_accepted (accepted : Settings.ofEnvironment lookup = .ok s) (text : lines? input = some lines) :
    run lookup input =
      if s.queueCapacity.toNat ≤ Intake.mostRoom then .ok (outcome s lines) else .error (.refused .tooMuchRoom) := by
  have started : start lookup = (Intake.start s .empty).mapError .refused := by rw [start, accepted]
  rw [run, started, Intake.start_of_check (Settings.check_of_ofEnvironment accepted)]
  split
  · have printed (i : Intake) : finish i input = .ok (metrics i lines) := by rw [finish, text]
    change finish _ input = _
    rw [printed, metrics, Intake.run_eq_foldl, Intake.foldl_handle]
    rfl
  · rfl

theorem lines?_nil : lines? [] = some ("".splitOn "\n") := by
  rw [lines?, Text.Utf8.decode?, Text.Utf8.parts]
  rfl

def vastRoom (name : String) : Option String :=
  if name = Settings.capacityVariable then some "2305843009213693952" else none

end Replay

namespace Gateway

/-- However the loop and the others take turns, a gateway that has ended has settled, and once it is
told to stop it ends. So a replay with accepted settings prints what a session comes to, one envelope
after the other, exactly if there can be a queue of that capacity. -/
theorem settles {lookup : String → Option String} {input : Json.Octets} {s : Settings} {lines : List String}
    (accepted : Settings.ofEnvironment lookup = .ok s) (text : Replay.lines? input = some lines) :
    (∀ (t : Settings) (h : Hub) (acts : List Act) (g : Gateway), Runs (fresh t h) acts g →
      (g.phase = .ended → g.Settled h acts) ∧
        (g.isSignalled = true →
          (g.phase = .ended ∨ ∃ a k, a.isOfLoop = true ∧ Step g a k) ∧
            ∀ more k, Runs g more k → (∀ a ∈ more, a.isOfLoop = true) → more.length ≤ g.intake.waiting.length + 3)) ∧
      (Replay.run lookup input = .ok (Replay.outcome s lines) ↔ s.queueCapacity.toNat ≤ Intake.mostRoom) := by
  constructor
  · intro t h acts g run
    refine ⟨run.settled, fun signalled => ⟨ended_or_step signalled, fun more k rest loop => ?_⟩⟩
    exact Nat.le_trans (rest.length_le loop signalled) g.stepsLeft_le
  · rw [Replay.run_of_accepted accepted text]
    split
    · next fits => exact iff_of_true rfl fits
    · next vast => exact iff_of_false nofun vast

def ack : Envelope := ⟨Envelope.opHeartbeatAck, none, none, .null⟩

def unnamed : Envelope := ⟨Envelope.opDispatch, none, none, .null⟩

def lateSignal : List Act :=
  [.takeControl, .send ack, .send unnamed, .look, .letGo, .signal, .wait, .close, .apply ack, .apply unnamed, .finish]

theorem settles_after_late_signal :
    (∃ g, Runs (fresh ⟨2, 0⟩ .empty) lateSignal g ∧ g.intake.control.length = 2 ∧ g.Settled .empty lateSignal) ∧
      Replay.run (fun _ => none) [] = .ok (Replay.outcome .default ("".splitOn "\n")) := by
  have accepted : Settings.ofEnvironment (fun _ => none) = .ok .default := rfl
  obtain ⟨gateways, printed⟩ := settles accepted Replay.lines?_nil
  constructor
  · have run := Runs.cons (g := fresh ⟨2, 0⟩ .empty) (.takeControl rfl rfl) <|
      .cons (.send (e := ack) rfl rfl) <| .cons (.send (e := unnamed) rfl rfl) <| .cons (.look rfl rfl) <|
      .cons (.letGo rfl) <| .cons (.signal rfl) <| .cons (.wait rfl) <| .cons (.close rfl rfl) <|
      .cons (.drain rfl rfl) <| .cons (.drain rfl rfl) <| .cons (.drained rfl rfl) <| .nil _
    exact ⟨_, run, rfl, (gateways _ _ _ _ run).1 rfl⟩
  · exact printed.2 (by decide)

theorem refused_with_vast_room :
    ¬ ∀ (lookup : String → Option String) (input : Json.Octets) (s : Settings) (lines : List String),
      Settings.ofEnvironment lookup = .ok s → Replay.lines? input = some lines →
        Replay.run lookup input = .ok (Replay.outcome s lines) := by
  intro all
  have accepted : Settings.ofEnvironment Replay.vastRoom = .ok ⟨2305843009213693952, 0⟩ := rfl
  have printed := all Replay.vastRoom [] _ _ accepted Replay.lines?_nil
  rw [Replay.run_of_accepted accepted Replay.lines?_nil, if_neg (by decide)] at printed
  cases printed

end Gateway
end GuildFeed
