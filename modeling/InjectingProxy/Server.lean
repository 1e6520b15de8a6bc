import InjectingProxy.Config.Basic
import InjectingProxy.Event

/-!
# The life of a server

A server runs the application in a thread of its own.  Starting it launches a thread and polls until
the server is up, the thread has ended, or a deadline has passed; stopping it asks the server to
exit and waits for the thread.

What the threads do, and how time passes, is given from outside as a `Course`, so that the same
functions run on a prescribed course and can be reasoned about on any.  The number type of the
clock is a parameter for the same reason.

## What is here

* `Course`: how the threads and the clock behave.
* `Server`: the server with the threads launched so far.
* `Server.wait`, `Server.start`, `Server.stop`: the operations.
* `Course.prescribed`: a course that is given by numbers of sleeps.
-/

set_option autoImplicit false

namespace InjectingProxy

variable {τ : Type}

/-- How the threads and the clock behave, by the number of sleeps so far.  Threads are given by
their places in the order in which they were launched. -/
structure Course (τ : Type) where
  /-- The server has come up. -/
  isUp : Nat → Bool
  /-- The thread at a place has ended of itself. -/
  hasEnded : (place sleeps : Nat) → Bool
  /-- The thread at a place, if it has been asked to exit, is still on its way out. -/
  lingers : (place sleeps : Nat) → Bool
  /-- The ports of the sockets that the server has once it is up, for each place it listens on. -/
  sockets : List (List Int)
  /-- The time of the first poll, by the time from which the deadline counts. -/
  firstPoll : τ → τ
  /-- The time of the next poll, after one more sleep. -/
  elapse : Nat → τ → τ

/-- What a server is told when it is made: the interface and the port to listen on. -/
structure ServerSettings where
  host : String
  port : Int
  backendHost : String
  deriving DecidableEq, Repr

/-- The settings that a configuration gives. -/
def ServerSettings.ofConfig (c : Config) : ServerSettings := ⟨c.host, c.port, c.backendHost⟩

/-- The application is told when the server starts and ends. -/
def ServerSettings.lifespan : String := "on"

/-- A server with the threads launched so far. -/
structure Server (τ : Type) where
  settings : ServerSettings
  now : τ
  sleeps : Nat
  up : Bool
  shouldExit : Bool
  /-- For each thread launched so far, whether it still runs. -/
  threads : List Bool
  /-- The thread that is waited for when the server is stopped. -/
  current : Option Nat
  joins : Nat

namespace Server

/-- A server that has not been started. -/
def fresh (settings : ServerSettings) (now : τ) : Server τ where
  settings := settings
  now := now
  sleeps := 0
  up := false
  shouldExit := false
  threads := []
  current := none
  joins := 0

/-- A thread has no end by now: neither of itself nor because it was asked to. -/
def goesOn (course : Course τ) (s : Server τ) (place : Nat) : Bool :=
  !course.hasEnded place s.sleeps && (!s.shouldExit || course.lingers place s.sleeps)

/-- What has become of the threads by now. -/
def reap (course : Course τ) (s : Server τ) : Server τ :=
  { s with threads := s.threads.mapIdx fun place runs => runs && s.goesOn course place }

/-- What has become of the server and its threads by now.  A server that has come up is up from
then on. -/
def observe (course : Course τ) (s : Server τ) : Server τ :=
  { s.reap course with up := s.up || course.isUp s.sleeps }

/-- Launch a thread, up to the first poll. -/
def launch (course : Course τ) (s : Server τ) : Server τ :=
  observe course
    { s with
      now := course.firstPoll s.now
      threads := s.threads ++ [true]
      current := some s.threads.length }

/-- Sleep between two polls. -/
def sleep (course : Course τ) (s : Server τ) : Server τ :=
  observe course { s with now := course.elapse s.sleeps s.now, sleeps := s.sleeps + 1 }

/-- The thread launched last still runs. -/
def isAlive (s : Server τ) : Bool := (s.current.bind fun i => s.threads[i]?).getD false

/-- How waiting for the server ends. -/
inductive Waited (τ : Type) where
  | up (s : Server τ)
  | failed (s : Server τ)
  /-- Neither within the polls that were allowed. -/
  | undecided (s : Server τ)

/-- Poll until the server is up, its thread has ended, or the deadline has passed. -/
def wait [LT τ] [DecidableLT τ] (course : Course τ) (deadline : τ) :
    (polls : Nat) → Server τ → Waited τ
  | 0, s => .undecided s
  | polls + 1, s =>
    if s.up then .up s
    else if !s.isAlive || decide (deadline < s.now) then .failed s
    else wait course deadline polls (s.sleep course)

/-- Ask the server to exit, and wait for the thread launched last to end. -/
def stop (course : Course τ) (s : Server τ) : Server τ × List Event :=
  let asked := reap course { s with shouldExit := true }
  let joined :=
    match s.current with
    | none => asked
    | some place =>
      { asked with
        threads := asked.threads.set place false
        current := none
        joins := asked.joins + 1 }
  (joined, [.stopped])

/-- The port that the server listens on: that of its first socket, or the one in its settings. -/
def listeningPort (course : Course τ) (s : Server τ) : Int :=
  if s.up then (course.sockets.flatten.head?).getD s.settings.port else s.settings.port

/-- The server has not come up. -/
structure StartFault where
  host : String
  port : Int
  deriving DecidableEq, Repr

/-- The text of a failed start. -/
def StartFault.message (f : StartFault) : String :=
  "Proxy failed to start on " ++ f.host ++ ":" ++ toString f.port

/-- How a start ends. -/
inductive StartEnd where
  /-- The server has come up. -/
  | up
  | failed (f : StartFault)
  /-- It goes on after the polls that were allowed. -/
  | undecided
  deriving DecidableEq, Repr

/-- What became of a start, the server afterwards, and what was told. -/
structure Started (τ : Type) where
  ending : StartEnd
  server : Server τ
  events : List Event

/-- Start the server: launch a thread, and wait for at most a given time.  A server that does not
come up is stopped. -/
def start [Add τ] [LT τ] [DecidableLT τ] (course : Course τ) (timeout : τ) (polls : Nat)
    (s : Server τ) : Started τ :=
  match wait course (s.now + timeout) polls (s.launch course) with
  | .up s => ⟨.up, s, [.started s.settings.backendHost (s.listeningPort course)]⟩
  | .failed s =>
    let (s, events) := s.stop course
    ⟨.failed ⟨s.settings.host, s.settings.port⟩, s, events⟩
  | .undecided s => ⟨.undecided, s, []⟩

/-- Seconds between two polls. -/
def pause : Float := 0.05

/-- Seconds within which a server has to come up. -/
def defaultTimeout : Float := 10.0

end Server

namespace Course

/-- The course on which the server comes up, and its threads end, after given numbers of sleeps.  A
thread that is asked to exit ends at once, and only a sleep takes time, just that between two
polls. -/
def prescribed (upAfter endsAfter : Option Nat) (sockets : List (List Int)) : Course Float where
  isUp n := upAfter.any (· ≤ n)
  hasEnded _ n := endsAfter.any (· ≤ n)
  lingers _ _ := false
  sockets := sockets
  firstPoll now := now
  elapse _ now := now + Server.pause

/-- More polls than a start on a prescribed course takes. -/
def pollsFor (upAfter endsAfter : Option Nat) (timeout : Float) : Nat :=
  let byTime := 2 * (timeout / Server.pause).toUInt64.toNat + 16
  let bySleeps (limit : Option Nat) (n : Nat) : Nat := min n ((limit.map (· + 2)).getD n)
  bySleeps upAfter (bySleeps endsAfter byTime)

end Course
end InjectingProxy
