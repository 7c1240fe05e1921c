/-
Publishing events. An event is written as an object of its own the first time; when it comes up
again, that object is told how often it has been seen, and keeps the note it was written with. Only
an event that could be written is remembered.
-/
import Tenancy.Cluster.Exchange
import Tenancy.Object.Schema
import Tenancy.Operator.Call
import Tenancy.Text.Timestamp

namespace Tenancy.Operator

/-- Who publishes. -/
structure Reporter where
  controller : String
  /-- The pod that the controller runs in, if it is known. -/
  pod : Option String := none
  deriving DecidableEq, Repr

/-- An event as it was last written. -/
structure Sighting where
  event : Event
  /-- The name of the object that holds it. -/
  name : String
  first : Instant
  /-- How often it has been seen and when the last time was, unless it was only once. -/
  series : Option (Nat × Instant) := none
  deriving DecidableEq, Repr

namespace Sighting

/-- An event that is seen for the first time. -/
def start (reporter : Reporter) (now : Instant) (event : Event) : Sighting :=
  { event
    name := event.reference.name.getD reporter.controller ++ "." ++ now.stamp
    first := now }

/-- The same event, seen once more. -/
def again (s : Sighting) (now : Instant) : Sighting :=
  { s with series := some (s.series.elim 2 (·.1 + 1), now) }

def ns (s : Sighting) : String := s.event.reference.ns.getD "default"

def toJson (reporter : Reporter) (s : Sighting) : Json :=
  .present [
    ("apiVersion", some (.str "events.k8s.io/v1")), ("kind", some (.str "Event")),
    ("metadata", some (.present [("name", some (.str s.name)),
      ("namespace", s.event.reference.ns.map .str)])),
    ("type", some (.str s.event.type.label)), ("reason", some (.str s.event.reason)),
    ("action", some (.str s.event.action)), ("note", s.event.note.map .str),
    ("regarding", some s.event.reference.toJson),
    ("eventTime", some (.str s.first.microText)),
    ("reportingController", some (.str reporter.controller)),
    ("reportingInstance", some (.str (reporter.pod.getD reporter.controller))),
    ("series", s.series.map fun (count, last) =>
      .object [("count", .int count), ("lastObservedTime", .str last.microText)])]

end Sighting

namespace Publisher

def collection (ns : String) : Cluster.Collection := ⟨"events.k8s.io/v1", "events", some ns⟩

open Decoder in
def decodeEvent : Decoder Unit := fun w => do
  let fields ← entries w
  if !(constant fields "apiVersion" "events.k8s.io/v1" && constant fields "kind" "Event") then none
  let _ ← member fields "metadata" Object.Meta.decode
  let _ ← Object.Shape.normalizeFields Object.Schema.eventFields fields
  some ()

/-- Writes an event: creates its object, or tells the object of the series. -/
def exchange (reporter : Reporter) (s : Sighting) : Http.Exchange Cluster.Error Unit :=
  match s.series with
  | none => Cluster.create (collection s.ns) (s.toJson reporter) decodeEvent
  | some _ => Cluster.patch (collection s.ns) s.name none none (s.toJson reporter) decodeEvent

end Publisher

/-- A reporter and what it has published. -/
structure Publisher where
  reporter : Reporter
  /-- The last writing of each event, by the event without its note. -/
  sightings : Dict Event Sighting := []
  deriving Repr

namespace Publisher

/-- What tells one event from another: all but its note. -/
def keyOf (event : Event) : Event := { event with note := none }

/-- How an event is written this time. -/
def next (p : Publisher) (now : Instant) (event : Event) : Sighting :=
  match Dict.get? p.sightings (keyOf event) with
  | some s => s.again now
  | none => .start p.reporter now event

/-- Publishes an event; whether it worked shows only in what is remembered. -/
def publish {σ : Type} (t : Http.Transport σ) (now : Instant) (event : Event) (p : Publisher)
    (s : σ) : Publisher × σ :=
  let sighting := p.next now event
  match (exchange p.reporter sighting).perform t s with
  | (.ok _, s) => ({ p with sightings := Dict.put p.sightings (keyOf event) sighting }, s)
  | (.error _, s) => (p, s)

end Publisher
end Tenancy.Operator
