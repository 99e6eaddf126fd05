import GuildFeed.Store.Update

namespace GuildFeed

inductive Command
  | dispatch (dispatch : Dispatch)
  | upsert (entity : Entity)
  | remove (key : EntityKey)
  | removeGuild (id : GuildId)
  | clear
  deriving DecidableEq

namespace Store

def step (s : Store) : Command → Store
  | .dispatch d =>
    match s.update d with
    | .ok (t, _) => t
    | .error _ => s
  | .upsert e =>
    match s.upsert e with
    | .ok (t, _) => t
    | .error _ => s
  | .remove k => (s.remove k).1
  | .removeGuild g => (s.removeGuild g).1
  | .clear => s.clear

theorem step_dispatch {s t : Store} {d : Dispatch} {e : Event} (accepted : s.update d = .ok (t, e)) :
    s.step (.dispatch d) = t := by
  rw [step, accepted]

def run (cs : List Command) : Store := cs.foldl step empty

inductive Reachable : Store → Prop
  | empty : Reachable empty
  | step {s : Store} (reachable : Reachable s) (c : Command) : Reachable (s.step c)

theorem run_concat (cs : List Command) (c : Command) : run (cs ++ [c]) = (run cs).step c := by
  simp [run]

theorem Reachable.foldl {s : Store} (reachable : Reachable s) (cs : List Command) :
    Reachable (cs.foldl Store.step s) := by
  induction cs generalizing s with
  | nil => exact reachable
  | cons c cs ih => exact ih (reachable.step c)

theorem reachable_run (cs : List Command) : Reachable (run cs) := Reachable.empty.foldl cs

end Store
end GuildFeed
