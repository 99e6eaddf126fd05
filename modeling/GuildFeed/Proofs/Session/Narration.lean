import GuildFeed.Proofs.Bus.Delivery
import GuildFeed.Proofs.Session.Calls

namespace GuildFeed

def Event.left? : Event → Option GuildId
  | guildUnavailable id false _ => some id
  | _ => none

/-- What a call tells by its outcome. One event for each guild that is given up comes before the
event of the dispatch, and nothing is told unless a dispatch is applied. -/
inductive Outcome.Told (givenUp : List GuildId) : Outcome → List Event → Prop
  | applied {departures : List Event} {e : Event}
    (one : (departures.map Event.left?).Perm (givenUp.map some)) : Told givenUp (.applied e) (departures ++ [e])
  | skipped (err : StoreError) : Told givenUp (.skipped err) []
  | forwarded (signal : Signal) : Told givenUp (.forwarded signal) []
  | undecodable (err : DecodeError) : Told givenUp (.undecodable err) []

inductive Move (ι : Type)
  | session (call : Call ι)
  | bus (call : Bus.Call)

namespace Cluster

variable {ι : Type} [DecidableEq ι]

def move (c : Cluster ι) : Move ι → Cluster ι
  | .session x => (c.call x).1
  | .bus x => { c with hub.bus := (c.hub.bus.call x).1 }

def play (c : Cluster ι) (moves : List (Move ι)) : Cluster ι := moves.foldl move c

def givenUp (c : Cluster ι) (x : Call ι) : List GuildId :=
  (x.dispatch?.map (c.sessions x.shard).left).getD []

/-- Whatever has become of the bus by then, the call publishes these events on it, and it makes no
other difference to the call. -/
def Publishes (c : Cluster ι) (x : Call ι) (es : List Event) : Prop :=
  ∀ b, { c with hub.bus := b }.call x = ({ (c.call x).1 with hub.bus := es.foldl Bus.publish b }, (c.call x).2)

inductive Narrated : Cluster ι → List (Move ι) → List Bus.Call → Prop
  | nil (c : Cluster ι) : Narrated c [] []
  | bus {c : Cluster ι} {x : Bus.Call} {moves : List (Move ι)} {xs : List Bus.Call}
    (rest : Narrated (c.move (.bus x)) moves xs) : Narrated c (.bus x :: moves) (x :: xs)
  | session {c : Cluster ι} {x : Call ι} {es : List Event} {moves : List (Move ι)} {xs : List Bus.Call}
    (told : (c.call x).2.Told (c.givenUp x) es) (publishes : c.Publishes x es)
    (rest : Narrated (c.move (.session x)) moves xs) :
    Narrated c (.session x :: moves) (es.map .publish ++ xs)

end Cluster

namespace Session

variable {s : Session} {h : Hub}

theorem foldl_drop_told (gs : List GuildId) (s : Session) (h : Hub) :
    ∃ es : List Event, es.map Event.left? = gs.map some ∧ ∀ b,
      let dropped := gs.foldl (fun (s, h) g => s.drop h g) (s, h)
      gs.foldl (fun (s, h) g => s.drop h g) (s, { h with bus := b }) =
        (dropped.1, { dropped.2 with bus := es.foldl Bus.publish b }) := by
  induction gs generalizing s h with
  | nil => exact ⟨[], rfl, fun _ => rfl⟩
  | cons g gs ih =>
    obtain ⟨es, lefts, rest⟩ := ih (s.drop h g).1 (s.drop h g).2
    refine ⟨(h.store.onGuildDelete ⟨g, false⟩).2 :: es, ?_, fun b => ?_⟩
    · rw [List.map_cons, lefts]
      rfl
    · exact rest (b.publish (h.store.onGuildDelete ⟨g, false⟩).2)

theorem prepared_told (s : Session) (h : Hub) (d : Dispatch) :
    ∃ es : List Event, es.map Event.left? = (s.left d).map some ∧ ∀ b,
      s.prepared { h with bus := b } d =
        ((s.prepared h d).1, { (s.prepared h d).2 with bus := es.foldl Bus.publish b }) := by
  cases d with
  | ready r => exact foldl_drop_told (s.gone r) s { h with counters := h.counters.countDispatch (.ready r) }
  | _ => exact ⟨[], rfl, fun _ => rfl⟩

theorem apply_told (s : Session) (h : Hub) (d : Dispatch) :
    ∃ es, (Outcome.ofResult (s.apply h d).2.2).Told (s.left d) es ∧ ∀ b,
      s.apply { h with bus := b } d =
        ((s.apply h d).1, { (s.apply h d).2.1 with bus := es.foldl Bus.publish b }, (s.apply h d).2.2) := by
  obtain ⟨departures, lefts, prepared⟩ := prepared_told s h d
  cases result : (s.prepared h d).2.store.update d with
  | ok p =>
    refine ⟨departures ++ [p.2], ?_, fun b => ?_⟩
    · rw [apply_ok result]
      exact .applied (.of_eq lefts)
    · have again : (s.prepared { h with bus := b } d).2.store.update d = .ok p := by rw [prepared, result]
      rw [apply_ok again, apply_ok result, prepared, List.foldl_append]
      rfl
  | error err =>
    have none : departures = [] := by
      have calm : s.left d = [] := s.left_of_old (by rintro r rfl; cases result)
      rw [calm] at lefts
      exact List.map_eq_nil_iff.1 lefts
    refine ⟨[], ?_, fun b => ?_⟩
    · rw [apply_error result]
      exact .skipped err
    · have again : (s.prepared { h with bus := b } d).2.store.update d = .error err := by rw [prepared, result]
      rw [apply_error again, apply_error result, prepared, none]

theorem process_told (s : Session) (h : Hub) (e : Envelope) :
    ∃ es, (s.process h e).2.2.Told ((e.dispatch?.map s.left).getD []) es ∧ ∀ b,
      s.process { h with bus := b } e =
        ((s.process h e).1, { (s.process h e).2.1 with bus := es.foldl Bus.publish b }, (s.process h e).2.2) := by
  cases decodes : e.decode with
  | error err =>
    simp only [process_undecodable decodes]
    exact ⟨[], .undecodable err, fun _ => rfl⟩
  | ok message =>
    cases message with
    | signal signal =>
      simp only [process_signal decodes]
      exact ⟨[], .forwarded signal, fun _ => rfl⟩
    | dispatch sequence d =>
      obtain ⟨es, told, publishes⟩ := apply_told (s.record sequence) h d
      have brings : e.dispatch? = some d := by rw [Envelope.dispatch?, decodes]
      rw [left_congr (show (s.record sequence).owned = s.owned from rfl)] at told
      refine ⟨es, ?_, fun b => ?_⟩
      · rw [process_dispatch decodes, brings]
        exact told
      · rw [process_dispatch decodes, process_dispatch decodes, publishes]

end Session

namespace Bus

theorem serve_append (b : Bus) (xs ys : List Call) : (b.serve (xs ++ ys)).1 = ((b.serve xs).1.serve ys).1 := by
  induction xs generalizing b with
  | nil => rfl
  | cons x xs ih => exact ih (b.call x).1

theorem serve_publish (b : Bus) (es : List Event) : (b.serve (es.map .publish)).1 = es.foldl publish b := by
  induction es generalizing b with
  | nil => rfl
  | cons e es ih => exact ih (b.publish e)

end Bus

namespace Cluster

variable {ι : Type} [DecidableEq ι] {c : Cluster ι}

theorem call_told (c : Cluster ι) (x : Call ι) :
    ∃ es, (c.call x).2.Told (c.givenUp x) es ∧ c.Publishes x es := by
  cases x with
  | process i e =>
    obtain ⟨es, told, publishes⟩ := (c.sessions i).process_told c.hub e
    refine ⟨es, told, fun b => ?_⟩
    rw [call, process, publishes]
    rfl
  | apply i d =>
    obtain ⟨es, told, publishes⟩ := (c.sessions i).apply_told c.hub d
    refine ⟨es, told, fun b => ?_⟩
    rw [call, apply, publishes]
    rfl

theorem Publishes.bus {x : Call ι} {es : List Event} (publishes : c.Publishes x es) :
    (c.call x).1.hub.bus = es.foldl Bus.publish c.hub.bus :=
  congrArg (·.1.hub.bus) (publishes c.hub.bus)

theorem Narrated.bus_play {moves : List (Move ι)} {xs : List Bus.Call} (narrated : c.Narrated moves xs) :
    (c.play moves).hub.bus = (c.hub.bus.serve xs).1 := by
  induction narrated with
  | nil c => rfl
  | bus rest ih => exact ih
  | session told publishes rest ih =>
    rw [Bus.serve_append, Bus.serve_publish, ← publishes.bus]
    exact ih

theorem exists_narrated (c : Cluster ι) (moves : List (Move ι)) : ∃ xs, c.Narrated moves xs := by
  induction moves generalizing c with
  | nil => exact ⟨[], .nil c⟩
  | cons m moves ih =>
    obtain ⟨xs, rest⟩ := ih (c.move m)
    cases m with
    | bus x => exact ⟨x :: xs, .bus rest⟩
    | session x =>
      obtain ⟨es, told, publishes⟩ := c.call_told x
      exact ⟨es.map .publish ++ xs, .session told publishes rest⟩

/-- However subscribers come, read and go, every stream is delivered what was published since it was
given out, once and in order. What sessions publish is the events of what they apply, and before it
one event for each guild that is given up. -/
theorem exactly_once :
    (∀ xs : List Bus.Call, (Bus.empty.serve xs).1.Delivers (Bus.empty.serve xs).2) ∧
      ∀ (c : Cluster ι) (moves : List (Move ι)),
        ∃ xs, c.Narrated moves xs ∧ (c.play moves).hub.bus = (c.hub.bus.serve xs).1 := by
  refine ⟨Bus.delivers_serve, fun c moves => ?_⟩
  obtain ⟨xs, narrated⟩ := c.exists_narrated moves
  exact ⟨xs, narrated, narrated.bus_play⟩

def turnover : List (Move Unit) :=
  [.bus .subscribe, .session (.apply () (.guildCreate (.bare ⟨1⟩))), .bus .subscribe,
    .session (.apply () (.ready ⟨6, ⟨⟨100⟩, "", none, none, false⟩, [], ""⟩)), .bus (.read 0)]

theorem exactly_once_turnover :
    let b := ((empty : Cluster Unit).play turnover).hub.bus
    (∃ xs, (empty : Cluster Unit).Narrated turnover xs ∧ b = (Bus.empty.serve xs).1 ∧
      b.Delivers (Bus.empty.serve xs).2) ∧
      (b.pending 0).map Event.kind = ["guild-unavailable", "ready"] ∧ b.pending 1 = b.pending 0 ∧ b.unread 0 = 2 := by
  intro b
  obtain ⟨xs, narrated, same⟩ := exactly_once.2 (empty : Cluster Unit) turnover
  have delivers := (exactly_once (ι := Unit)).1 xs
  refine ⟨⟨xs, narrated, same, ?_⟩, by decide +kernel, by decide +kernel, by decide +kernel⟩
  change b = _ at same
  rw [same]
  exact delivers

end Cluster
end GuildFeed
