import PodReach.Discovery.Collect
import PodReach.Selector
import PodReach.World.Api

/-!
# Waiting for pods

Both searches ask the cluster for its pods again and again, with a pause before and after every
question. Each round takes two pauses off the budget. They differ in when they look at it: the
search for all pods of an image starts a round only while the budget is not negative, the
search for the newest pod always makes one round and ends when nothing is left after it.

A search takes the number of rounds that it may be watched for. A budget that is never used up
runs into that bound and is reported as endless.
-/

namespace PodReach.Discovery

open Run Cluster

/-- What a search repeats in every round. -/
structure Search where
  ns : Yaml
  labels : String
  images : List String
  interval : Double
  deriving Inhabited

namespace Search

/-- The pause between two questions unless one is given: a second. -/
def usualInterval : Double := 1

/-- How long a search for an image goes on at least when it finds nothing: a minute. -/
def usualMinWait : Double := 60

/-- How long a search for the newest pod accepts that there is none: a minute. -/
def usualGrace : Double := 60

/-- The number of rounds after which a search counts as endless: more than any budget of whole
seconds lasts that binary64 numbers can count down. -/
def horizon : Nat := 10000000000000000

/-- The time that one round takes. -/
def roundTime (s : Search) : Double := s.interval.mul 2

/-- The failure of a search that found nothing usable in time. -/
def timeout (s : Search) : Halt :=
  .failed (.waitTimeout (Selector.describeTerms s.labels s.images) s.ns.shown)

/-- The failure of a search that found no pod at all. -/
def noMatch (s : Search) : Halt :=
  .failed (.noMatchingPod (Selector.describeTerms s.labels s.images) s.ns.shown)

/-- The pods of an image in a list, if the list settles the search. An empty list never does;
a list without such pods does once the minimum wait is over. -/
def settled (s : Search) (minWait : Double) (pods : List Pod) : Except Halt (Option (List Pod)) :=
  if pods.isEmpty then .ok none
  else do
    match ← collect s.images pods with
    | .wait => .ok none
    | .ready found =>
      if !found.isEmpty || minWait.le 0 then .ok (some found) else .ok none

/-- One question of the search for all pods of an image: the pods, or nothing if the search goes
on. -/
def runningRound (s : Search) (minWait : Double) : Run (Option (List Pod)) := do
  Clock.pause s.interval
  let pods ← listPods s.ns s.labels
  ofExcept (s.settled minWait pods)

/-- Wait until all pods that use one of the images are running. -/
def running (s : Search) : Nat → Double → Double → Run (List Pod)
  | 0, _, _ => throw .endless
  | rounds + 1, budget, minWait => do
    if Double.le 0 budget then
      match ← s.runningRound minWait with
      | some found => pure found
      | none =>
        Clock.pause s.interval
        running s rounds (budget.sub s.roundTime) (minWait.sub s.roundTime)
    else throw s.timeout

/-- One question of the search for the newest pod: the pod if it is running, nothing if the
search goes on. -/
def newestRound (s : Search) (grace start : Double) : Run (Option Pod) := do
  Clock.pause s.interval
  let pods ← listPods s.ns s.labels
  match ← ofExcept (newest s.images pods) with
  | some pod =>
    let status ← need pod.status?
    if status == "Running" then pure (some pod)
    else if Status.isCritical status then throw (.failed (.criticalPod pod.name? status))
    else pure none
  | none =>
    let passed := (← Clock.read).sub start
    if grace.lt passed then throw s.noMatch else pure none

/-- Wait until the newest pod is running. -/
def newestRunning (s : Search) (grace start : Double) : Nat → Double → Run Pod
  | 0, _ => throw .endless
  | rounds + 1, budget => do
    match ← s.newestRound grace start with
    | some pod => pure pod
    | none =>
      Clock.pause s.interval
      let left := budget.sub s.roundTime
      if left.le 0 then throw s.timeout else newestRunning s grace start rounds left

end Search

/-- A search whose budget cannot pay for a round ends after its first one. -/
def afterOneRound {α : Type} (s : Search) (round : Run (Option α)) (mistake : Mistake) : Run α := do
  match ← round with
  | some found => pure found
  | none =>
    Clock.pause s.interval
    throw (.mistake mistake)

/-- Wait for all running pods of an image. A longest wait that is no number cannot even be
compared with zero. -/
def runningPodsWithImage (s : Search) (maxWait : Yaml) (minWait : Double) : Run (List Pod) :=
  match Budget.ofSetting maxWait with
  | .seconds budget => s.running Search.horizon budget minWait
  | .vast negative =>
    if negative then throw s.timeout else afterOneRound s (s.runningRound minWait) .overflow
  | .none => throw (.mistake .wrongKind)

/-- Wait for the newest pod to run. A longest wait that is no number is noticed only when the
first round is to be taken off it. -/
def newestRunningPod (s : Search) (maxWait : Yaml) (grace : Double) : Run Pod := do
  let start ← Clock.read
  let round := s.newestRound grace start
  match Budget.ofSetting maxWait with
  | .seconds budget => s.newestRunning grace start Search.horizon budget
  | .vast _ => afterOneRound s round .overflow
  | .none => afterOneRound s round .wrongKind

end PodReach.Discovery
