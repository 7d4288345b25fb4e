import PodReach.Calendar.Iso
import PodReach.Number.Double

/-!
# Instants and ages

An instant is a number of microseconds since the beginning of 1970. The age of a pod is shown in
the two largest units that matter, always rounded down.
-/

namespace PodReach

/-- A point in time, in microseconds since 1970-01-01T00:00:00Z. -/
structure Instant where
  micros : Int
  deriving DecidableEq, Repr, Inhabited

namespace Instant

/-- The instant of a moment; a clock without an offset shows UTC. -/
def ofMoment (m : Moment) : Instant :=
  ⟨m.utcMicros⟩

/-- The instant that an ISO 8601 text denotes. -/
def readIso? (s : String) : Option Instant :=
  (Iso.read? s).map ofMoment

/-- The instant that an RFC 3339 timestamp denotes. Its letters may be of either case. -/
def readTimestamp? (s : String) : Option Instant :=
  readIso? (s.map fun c => if c == 'z' then 'Z' else c)

/-- A number of microseconds in seconds, as a binary64 number. -/
def secondsOf (micros : Int) : Double :=
  .round (mkRat micros 1000000)

/-- The seconds since 1970 as a binary64 number. -/
def timestamp (t : Instant) : Double :=
  secondsOf t.micros

end Instant

namespace Age

/-- The text for an age in whole seconds; a negative age counts as zero. -/
def render (seconds : Int) : String :=
  if seconds < 60 then s!"{max seconds 0}s"
  else if seconds < 3600 then s!"{seconds / 60}m"
  else if seconds < 86400 then s!"{seconds / 3600}h{seconds % 3600 / 60}m"
  else s!"{seconds / 86400}d{seconds % 86400 / 3600}h"

/-- The whole seconds from one instant to another, the fraction dropped. -/
def seconds (created now : Instant) : Int :=
  ((Instant.secondsOf (now.micros - created.micros)).truncate).getD 0

/-- The text for the age of something created at a time that may be unknown. -/
def since (created : Option Instant) (now : Instant) : String :=
  match created with
  | none => "-"
  | some t => render (seconds t now)

end Age

example : (Instant.readTimestamp? "1970-01-02T00:00:00.5+01:00").map (·.micros) =
    some 82800500000 := by
  decide +kernel
example : (Instant.readTimestamp? "2024-03-10T12:00:00Z").map (·.micros) =
    some 1710072000000000 := by
  decide +kernel

end PodReach
