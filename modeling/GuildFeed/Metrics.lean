import Std.Data.ExtTreeMap
import GuildFeed.Dispatch

namespace GuildFeed

structure Counters where
  dispatches : Std.ExtTreeMap String Nat
  decodeFailures : Nat
  inconsistentReferences : Nat
  deriving DecidableEq

namespace Counters

def zero : Counters := ⟨∅, 0, 0⟩

def label (d : Dispatch) : String :=
  match d.kind? with
  | some kind => kind.name
  | none => "UNKNOWN"

def count (c : Counters) (label : String) : Nat := (c.dispatches[label]?).getD 0

def countDispatch (c : Counters) (d : Dispatch) : Counters :=
  { c with dispatches := c.dispatches.insert (label d) (c.count (label d) + 1) }

def countFailure (c : Counters) : Counters := { c with decodeFailures := c.decodeFailures + 1 }

def countSkip (c : Counters) : Counters :=
  { c with inconsistentReferences := c.inconsistentReferences + 1 }

end Counters

/-- What a gauge shows: it is kept in a signed word of 64 bits. -/
def gaugeReading (n : Int) : Int := n.bmod UInt64.size

namespace Metrics

structure Family where
  name : String
  help : String
  type : String
  label : String
  samples : List (Option String × Int)

def number (n : Int) : String := .ofList ((Double.ofInt n).text .positional)

def labelText (name value : String) : String := name ++ "=\"" ++ value ++ "\""

def Family.text (cluster : UInt64) (f : Family) : String :=
  let sample (s : Option String × Int) : String :=
    let labels := (s.1.map (labelText f.label)).toList
      ++ [labelText "cluster" (toString cluster.toNat)]
    f.name ++ "\x7b" ++ ",".intercalate labels ++ "\x7d " ++ number s.2 ++ "\n"
  if f.samples.isEmpty then ""
  else
    "# HELP " ++ f.name ++ " " ++ f.help ++ "\n# TYPE " ++ f.name ++ " " ++ f.type ++ "\n"
      ++ String.join (f.samples.map sample)

def families (c : Counters) (guilds members : Int) : List Family :=
  [{ name := "strata_decode_failures"
     help := "Envelopes dropped because their payload could not be decoded"
     type := "counter"
     label := ""
     samples := [(none, c.decodeFailures)] },
   { name := "strata_gateway_dispatches"
     help := "Dispatches received from the gateway"
     type := "counter"
     label := "event"
     samples := c.dispatches.toList.map fun (label, n) => (some label, n) },
   { name := "strata_inconsistent_references"
     help := "Dispatches skipped because they referenced entities missing from the cache"
     type := "counter"
     label := ""
     samples := [(none, c.inconsistentReferences)] },
   { name := "strata_resource_counts"
     help := "Counts of cached resources"
     type := "gauge"
     label := "count"
     samples := [(some "Guilds", gaugeReading guilds), (some "Members", gaugeReading members)] }]

def text (cluster : UInt64) (c : Counters) (guilds members : Int) : String :=
  String.join ((families c guilds members).map (Family.text cluster))

end Metrics
end GuildFeed
