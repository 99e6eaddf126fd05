import GuildFeed.Proofs.Record.Records
import GuildFeed.Proofs.Session.Shards
import GuildFeed.Proofs.Table

namespace GuildFeed

namespace Outcome

def isSkipped : Outcome → Bool
  | skipped _ => true
  | _ => false

def isForwarded : Outcome → Bool
  | forwarded _ => true
  | _ => false

def isUndecodable : Outcome → Bool
  | undecodable _ => true
  | _ => false

end Outcome

namespace Envelope

def brings (kind : Dispatch.Kind) (e : Envelope) : Bool :=
  e.op = opDispatch && e.event = some kind.name && (kind.read e.payload).isOk

def isForeign (e : Envelope) : Bool :=
  e.op = opDispatch && e.event.any (· ∉ Dispatch.Kind.all.map Dispatch.Kind.name)

end Envelope

def Counters.total (k : Counters) : Nat := Table.total id k.dispatches

/-! ## Names, kinds and labels -/

namespace Dispatch

namespace Kind

theorem name_injective : Function.Injective name := by
  intro a b same
  have found := ofName?_eq_some.2 same
  rw [ofName?_name b] at found
  exact (Option.some.inj found).symm

theorem ofName?_eq_none {name : String} : ofName? name = none ↔ name ∉ all.map Kind.name := by
  rw [← not_iff_not, not_not, ← ne_eq, Option.ne_none_iff_exists', List.mem_map]
  simp only [ofName?_eq_some, mem_all, true_and]

theorem name_ne_unknown (kind : Kind) : kind.name ≠ "UNKNOWN" := by
  cases kind <;> decide

theorem kind?_of_read {kind : Kind} {v : Json} {d : Dispatch} (reads : kind.read v = .ok d) :
    d.kind? = some kind := by
  have made {α : Type} {f : α → Dispatch} (known : ∀ a, (f a).kind? = some kind) {r : Except Fault α}
      (h : r.map f = .ok d) : d.kind? = some kind := by
    cases r with
    | error _ => cases h
    | ok a =>
      obtain ⟨⟩ := h
      exact known a
  cases kind <;> exact made (fun _ => rfl) reads

end Kind

theorem any_label_read (kind : Kind) (v : Json) (l : String) :
    ((kind.read v).toOption.any fun d => Counters.label d = l) = ((kind.read v).isOk && kind.name = l) := by
  cases reads : kind.read v with
  | error fault => rfl
  | ok d =>
    have label : Counters.label d = kind.name := by rw [Counters.label, Kind.kind?_of_read reads]
    simp [Except.toOption, Except.isOk, Except.toBool, label]

theorem decode_foreign {name : String} (foreign : name ∉ Kind.all.map Kind.name) (v : Json) :
    decode name v = .ok (.unknown name v) := by
  rw [decode, Kind.ofName?_eq_none.2 foreign]

theorem toOption_decode (kind : Kind) (v : Json) : (decode kind.name v).toOption = (kind.read v).toOption := by
  rw [decode, Kind.ofName?_name]
  cases h : kind.read v <;> simp [h, Except.mapError, Except.toOption]

end Dispatch

namespace Envelope
open Dispatch (Kind)

theorem dispatch?_eq (e : Envelope) :
    e.dispatch? =
      if e.op = opDispatch then e.event.bind fun name => (Dispatch.decode name e.payload).toOption else none := by
  unfold dispatch? decode
  by_cases dispatch : e.op = opDispatch
  · rw [if_pos dispatch, if_pos dispatch]
    cases e.event with
    | none => rfl
    | some name => cases h : Dispatch.decode name e.payload <;> simp [h] <;> rfl
  · rw [if_neg dispatch, if_neg dispatch]
    split_ifs <;> try rfl
    cases readHello e.payload <;> rfl

theorem brings_eq (e : Envelope) (kind : Kind) :
    e.brings kind = e.dispatch?.any fun d => Counters.label d = kind.name := by
  rw [dispatch?_eq, brings]
  by_cases dispatch : e.op = opDispatch
  swap
  · simp [dispatch]
  rw [if_pos dispatch]
  cases e.event with
  | none => simp
  | some name =>
    by_cases known : name ∈ Kind.all.map Kind.name
    · obtain ⟨k, -, rfl⟩ := List.mem_map.1 known
      rw [Option.bind_some, Dispatch.toOption_decode, Dispatch.any_label_read]
      by_cases own : k = kind
      · subst own
        simp [dispatch]
      · have other : k.name ≠ kind.name := fun same => own (Kind.name_injective same)
        simp [other]
    · have other : name ≠ kind.name := fun same => known (List.mem_map.2 ⟨kind, kind.mem_all, same.symm⟩)
      have unknown : "UNKNOWN" ≠ kind.name := kind.name_ne_unknown.symm
      simp [Dispatch.decode_foreign known, Except.toOption, Counters.label, Dispatch.kind?, other, unknown]

theorem isForeign_eq (e : Envelope) : e.isForeign = e.dispatch?.any fun d => Counters.label d = "UNKNOWN" := by
  rw [dispatch?_eq, isForeign]
  by_cases dispatch : e.op = opDispatch
  swap
  · simp [dispatch]
  rw [if_pos dispatch]
  cases e.event with
  | none => simp
  | some name =>
    rw [Option.bind_some, Option.any_some]
    by_cases known : name ∈ Kind.all.map Kind.name
    · obtain ⟨k, -, rfl⟩ := List.mem_map.1 known
      rw [Dispatch.toOption_decode, Dispatch.any_label_read]
      simp [known, k.name_ne_unknown]
    · simp [known, Dispatch.decode_foreign known, Except.toOption, Counters.label, Dispatch.kind?, dispatch]

end Envelope

/-! ## One call -/

namespace Counters

theorem count_countDispatch (k : Counters) (d : Dispatch) (l : String) :
    (k.countDispatch d).count l = k.count l + (decide (label d = l)).toNat := by
  by_cases same : label d = l
  · subst same
    simp [count, countDispatch]
  · simp [count, countDispatch, Std.ExtTreeMap.getElem?_insert, same]

theorem total_countDispatch (k : Counters) (d : Dispatch) : (k.countDispatch d).total = k.total + 1 := by
  have before := Table.total_eq id k.dispatches (label d)
  have after := Table.total_insert id k.dispatches (label d) (k.count (label d) + 1)
  rw [Option.map_id_fun, id] at before
  simp only [total, countDispatch, count, id] at before after ⊢
  omega

end Counters

/-- What a call that comes to a given outcome enters into the counters. -/
inductive Counters.Enters (k : Counters) (e : Envelope) : Outcome → Counters → Prop
  | applied {d : Dispatch} {event : Event} (brought : e.dispatch? = some d) :
    k.Enters e (.applied event) (k.countDispatch d)
  | skipped {d : Dispatch} {err : StoreError} (brought : e.dispatch? = some d) :
    k.Enters e (.skipped err) (k.countDispatch d).countSkip
  | forwarded {signal : Signal} (silent : e.dispatch? = none) : k.Enters e (.forwarded signal) k
  | undecodable {err : DecodeError} (silent : e.dispatch? = none) : k.Enters e (.undecodable err) k.countFailure

namespace Counters.Enters

variable {k k' : Counters} {e : Envelope} {o : Outcome}

theorem decoded (entered : k.Enters e o k') : (o.isApplied || o.isSkipped) = e.dispatch?.isSome := by
  cases entered with
  | applied brought | skipped brought => simp [brought, Outcome.isApplied, Outcome.isSkipped]
  | forwarded silent | undecodable silent => simp [silent, Outcome.isApplied, Outcome.isSkipped]

theorem decodeFailures (entered : k.Enters e o k') : k'.decodeFailures = k.decodeFailures + o.isUndecodable.toNat := by
  cases entered <;> rfl

theorem inconsistentReferences (entered : k.Enters e o k') :
    k'.inconsistentReferences = k.inconsistentReferences + o.isSkipped.toNat := by
  cases entered <;> rfl

theorem count (entered : k.Enters e o k') (l : String) :
    k'.count l = k.count l + (e.dispatch?.any fun d => label d = l).toNat := by
  cases entered with
  | @applied d _ brought | @skipped d _ brought =>
    rw [brought, Option.any_some]
    exact k.count_countDispatch d l
  | forwarded silent | undecodable silent =>
    rw [silent]
    rfl

theorem heads (entered : k.Enters e o k') :
    k'.total + k'.decodeFailures = k.total + k.decodeFailures + (! o.isForwarded).toNat := by
  cases entered with
  | @applied d _ _ | @skipped d _ _ =>
    have one : (k.countDispatch d).total + k.decodeFailures = k.total + k.decodeFailures + 1 := by
      rw [total_countDispatch]
      omega
    exact one
  | forwarded _ | undecodable _ => rfl

end Counters.Enters

namespace Session

variable {s : Session} {h : Hub}

theorem counters_foldl_drop (gs : List GuildId) (p : Session × Hub) :
    (gs.foldl (fun (s, h) g => s.drop h g) p).2.counters = p.2.counters := by
  induction gs generalizing p with
  | nil => rfl
  | cons g gs ih => exact ih _

theorem counters_reconcile (s : Session) (h : Hub) (r : Ready) : (s.reconcile h r).2.counters = h.counters :=
  counters_foldl_drop (s.gone r) (s, h)

theorem counters_prepared (s : Session) (h : Hub) (d : Dispatch) :
    (s.prepared h d).2.counters = h.counters.countDispatch d := by
  cases d with
  | ready r => exact counters_reconcile s _ r
  | _ => rfl

theorem process_enters (s : Session) (h : Hub) (e : Envelope) :
    h.counters.Enters e (s.process h e).2.2 (s.process h e).2.1.counters := by
  cases decodes : e.decode with
  | error err =>
    rw [process_undecodable decodes]
    exact .undecodable (by rw [Envelope.dispatch?, decodes])
  | ok message =>
    cases message with
    | signal signal =>
      rw [process_signal decodes]
      exact .forwarded (by rw [Envelope.dispatch?, decodes])
    | dispatch sequence d =>
      have brought : e.dispatch? = some d := by rw [Envelope.dispatch?, decodes]
      rw [process_dispatch decodes]
      cases result : ((s.record sequence).prepared h d).2.store.update d with
      | ok p =>
        rw [apply_ok result]
        simpa only [Outcome.ofResult, counters_prepared] using Counters.Enters.applied brought
      | error err =>
        rw [apply_error result]
        simpa only [Outcome.ofResult, counters_prepared] using Counters.Enters.skipped brought

end Session

/-! ## A run -/

namespace Cluster

variable {ι : Type} [DecidableEq ι]

theorem length_run (c : Cluster ι) (calls : List (ι × Envelope)) : (c.run calls).2.length = calls.length := by
  induction calls generalizing c with
  | nil => rfl
  | cons call calls ih => exact congrArg Nat.succ (ih _)

theorem run_adds {f : Counters → Nat} {p : Envelope → Outcome → Bool}
    (adds : ∀ {k e o k'}, Counters.Enters k e o k' → f k' = f k + (p e o).toNat) (c : Cluster ι)
    (calls : List (ι × Envelope)) :
    f (c.run calls).1.hub.counters =
      f c.hub.counters + ((calls.map Prod.snd).zip ((c.run calls).2.map Prod.snd)).countP fun x => p x.1 x.2 := by
  induction calls generalizing c with
  | nil => simp [run]
  | cons call calls ih =>
    obtain ⟨i, e⟩ := call
    have step := adds (Session.process_enters (c.sessions i) c.hub e)
    have rest := ih (c.process i e).1
    have hub : (c.process i e).1.hub = ((c.sessions i).process c.hub e).2.1 := rfl
    have outcome : (c.process i e).2 = ((c.sessions i).process c.hub e).2.2 := rfl
    rw [run_cons]
    simp only [List.map_cons, List.zip_cons_cons, List.countP_cons]
    rw [rest, hub, step, outcome]
    cases p e ((c.sessions i).process c.hub e).2.2 with
    | false => simp
    | true => simp [Nat.add_assoc, Nat.add_comm]

theorem run_adds_outcomes {f : Counters → Nat} {p : Outcome → Bool}
    (adds : ∀ {k e o k'}, Counters.Enters k e o k' → f k' = f k + (p o).toNat) (c : Cluster ι)
    (calls : List (ι × Envelope)) :
    f (c.run calls).1.hub.counters = f c.hub.counters + ((c.run calls).2.map Prod.snd).countP p := by
  have all := run_adds (p := fun _ => p) adds c calls
  have lengths : ((c.run calls).2.map Prod.snd).length ≤ (calls.map Prod.snd).length := by simp [length_run]
  rw [all]
  conv_rhs => rw [← List.map_snd_zip lengths]
  rw [List.countP_map]
  rfl

theorem run_adds_envelopes {f : Counters → Nat} {p : Envelope → Bool}
    (adds : ∀ {k e o k'}, Counters.Enters k e o k' → f k' = f k + (p e).toNat) (c : Cluster ι)
    (calls : List (ι × Envelope)) :
    f (c.run calls).1.hub.counters = f c.hub.counters + (calls.map Prod.snd).countP p := by
  have all := run_adds (p := fun e _ => p e) adds c calls
  have lengths : (calls.map Prod.snd).length ≤ ((c.run calls).2.map Prod.snd).length := by simp [length_run]
  rw [all]
  conv_rhs => rw [← List.map_fst_zip lengths]
  rw [List.countP_map]
  rfl

theorem run_decoded (c : Cluster ι) (calls : List (ι × Envelope)) :
    (c.run calls).2.map (fun x => x.2.isApplied || x.2.isSkipped) = calls.map fun x => x.2.dispatch?.isSome := by
  induction calls generalizing c with
  | nil => rfl
  | cons call calls ih =>
    have first := (Session.process_enters (c.sessions call.1) c.hub call.2).decoded
    exact congrArg₂ List.cons first (ih _)

/-- Every call of a run is counted under one head: as undecodable, as forwarded, which needs no
counter, or under the label of its event; those skipped are counted as such besides. Guilds dropped
when a connection starts over are not counted. -/
theorem every_call_counted_once (c : Cluster ι) (calls : List (ι × Envelope)) :
    let start : Cluster ι := { c with hub.counters := .zero }
    let counters := (start.run calls).1.hub.counters
    let envelopes := calls.map Prod.snd
    let outcomes := (start.run calls).2.map Prod.snd
    counters.decodeFailures = outcomes.countP Outcome.isUndecodable ∧
      counters.inconsistentReferences = outcomes.countP Outcome.isSkipped ∧
      (∀ kind : Dispatch.Kind, counters.count kind.name = envelopes.countP (Envelope.brings kind)) ∧
      counters.count "UNKNOWN" = envelopes.countP Envelope.isForeign ∧
      counters.total + counters.decodeFailures + outcomes.countP Outcome.isForwarded = calls.length ∧
      (outcomes.map fun o => o.isApplied || o.isSkipped) = envelopes.map (·.dispatch?.isSome) ∧
      ∀ (s : Session) (h : Hub) (r : Ready), (s.reconcile h r).2.counters = h.counters := by
  intro start counters envelopes outcomes
  have label (l : String) {p : Envelope → Bool} (tells : ∀ e, p e = e.dispatch?.any fun d => Counters.label d = l) :
      counters.count l = envelopes.countP p := by
    have counted : counters.count l = Counters.zero.count l + envelopes.countP p :=
      run_adds_envelopes (f := (Counters.count · l)) (fun entered => by rw [tells, entered.count]) start calls
    simpa [Counters.zero, Counters.count] using counted
  have failures : counters.decodeFailures = 0 + outcomes.countP Outcome.isUndecodable :=
    run_adds_outcomes (f := Counters.decodeFailures) Counters.Enters.decodeFailures start calls
  have skips : counters.inconsistentReferences = 0 + outcomes.countP Outcome.isSkipped :=
    run_adds_outcomes (f := Counters.inconsistentReferences) Counters.Enters.inconsistentReferences start calls
  have heads : counters.total + counters.decodeFailures = 0 + outcomes.countP (fun o => ! o.isForwarded) :=
    run_adds_outcomes (f := fun k => k.total + k.decodeFailures) Counters.Enters.heads start calls
  refine ⟨by simpa using failures, by simpa using skips, fun kind => ?_, ?_, ?_, ?_, Session.counters_reconcile⟩
  · exact label kind.name fun e => e.brings_eq kind
  · exact label "UNKNOWN" Envelope.isForeign_eq
  · have all : outcomes.length = calls.length := by simp [outcomes, length_run]
    have parts := List.length_eq_countP_add_countP Outcome.isForwarded (l := outcomes)
    rw [heads, ← all, parts]
    simp only [Bool.not_eq_true, Nat.zero_add, Nat.add_comm, Bool.decide_eq_false]
  · simpa [outcomes, envelopes, Function.comp_def] using run_decoded start calls

end Cluster
end GuildFeed
