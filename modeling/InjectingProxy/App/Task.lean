import InjectingProxy.App.Basic

/-!
# Requests at the same time

While one request waits, others go on.  The way of a request through the application is cut into
steps that nothing interrupts: it begins to be measured, passes the gate, is forwarded, is
answered, and is over.  Tasks take these steps on a common state, in any order between them.

## What is here

* `Stage`, `Task`: how far a request has come.
* `App.step`: the next step of a task.
* `App.follow`: steps of several tasks, in the order of a schedule.
* `App.steps_eq_serve`: a task that takes all its steps undisturbed has been served.
* `App.together`: several requests at once, each of which lets the others go on while it waits for
  its client.
-/

set_option autoImplicit false

namespace InjectingProxy

/-- How far a request has come. -/
inductive Stage where
  | arrived
  /-- It is measured from this time on. -/
  | measured (began : Float)
  /-- It has passed the gate and is to be forwarded. -/
  | admitted (began : Float) (told : List Event)
  /-- It is settled what is sent to the client. -/
  | handled (began : Float) (h : Handling)
  /-- It has been answered. -/
  | answered (began : Float) (x : Exchange)
  | over (x : Exchange)

/-- A request on its way: how far it has come, how it was counted, if it was, and how many requests
were in flight each time the backend was asked for it. -/
structure Task where
  request : Request
  around : Surroundings
  stage : Stage
  counted : Option Counted
  seenInFlight : List Int

namespace Task

/-- A request that has just arrived. -/
def arriving (r : Request) (w : Surroundings) : Task := ⟨r, w, .arrived, none, []⟩

/-- The exchange of a request that is over. -/
def exchange? (t : Task) : Option Exchange :=
  match t.stage with
  | .over x => some x
  | _ => none

/-- The next step is to send a response that listens for its client, which lets others go on. -/
def waits (t : Task) : Bool :=
  match t.stage with
  | .handled _ h =>
    match h.result with
    | .ok (.relayed _) => Response.listens t.around.version
    | _ => false
  | _ => false

end Task

namespace App

/-- The next step of a task. -/
def step (a : App) (s : State) (t : Task) : State × Task :=
  match t.stage with
  | .arrived => (s.enter, { t with stage := .measured s.meter.now })
  | .measured began =>
    match a.receive s.asked t.request with
    | .aside result => (s, { t with stage := .handled began (settled result) })
    | .counted ordinal inject =>
      let s := { s with asked := ordinal }
      let t := { t with counted := some ⟨ordinal, some inject⟩ }
      let told := a.told t.request ordinal inject
      if inject then
        let h := a.inject
        (s.absorb h t.around.delay,
          { t with stage := .handled began { h with events := told ++ h.events } })
      else (s, { t with stage := .admitted began told })
  | .admitted began told =>
    let h := a.forward s t.request t.around.backend
    ((a.remember s h t.around.backend).absorb h t.around.delay,
      { t with
        stage := .handled began { h with events := told ++ h.events }
        seenInFlight := s.seenBy h })
  | .handled began h => (s, { t with stage := .answered began (answer h t.around) })
  | .answered began x =>
    let (s, x) := s.leave began x
    (s, { t with stage := .over x })
  | .over _ => (s, t)

/-- So many steps of a task. -/
def steps (a : App) : Nat → State → Task → State × Task
  | 0, s, t => (s, t)
  | n + 1, s, t =>
    let (s, t) := a.step s t
    a.steps n s t

/-- No request takes more steps. -/
def lifetime : Nat := 5

/-- A task that takes all its steps undisturbed has been served. -/
theorem steps_eq_serve (a : App) (s : State) (r : Request) (w : Surroundings) :
    let (state, t) := a.steps lifetime s (Task.arriving r w)
    state = (a.serve s r w).state ∧ t.exchange? = some (a.serve s r w).exchange ∧
      t.seenInFlight = (a.serve s r w).seenInFlight := by
  have asked : s.enter.asked = s.asked := rfl
  cases h : a.receive s.asked r with
  | aside result =>
    simp [lifetime, steps, step, Task.arriving, Task.exchange?, serve, handle, asked, h,
      State.absorb, State.seenBy, settled, remember_of_outbound_eq_nil]
    exact ⟨rfl, rfl⟩
  | counted ordinal inject =>
    cases inject with
    | true =>
      simp [lifetime, steps, step, Task.arriving, Task.exchange?, serve, handle, asked, h,
        State.absorb, State.seenBy, App.inject, remember_of_outbound_eq_nil]
    | false =>
      simp only [lifetime, steps, step, Task.arriving, Task.exchange?, serve, handle, asked, h]
      exact ⟨rfl, rfl, rfl⟩

/-- The next step of the task at a place among others; nothing happens where there is none. -/
def stepAt (a : App) (p : State × List Task) (i : Nat) : State × List Task :=
  match p.2[i]? with
  | none => p
  | some t =>
    let (s, t) := a.step p.1 t
    (s, p.2.set i t)

/-- Steps of tasks in the order of a schedule, which names the task of each step by its place. -/
def follow (a : App) (p : State × List Task) (schedule : List Nat) : State × List Task :=
  schedule.foldl a.stepAt p

/-- At most so many steps of a task, up to where it waits. -/
def proceed (a : App) : Nat → State → Task → State × Task
  | 0, s, t => (s, t)
  | n + 1, s, t =>
    if t.waits then (s, t)
    else
      let (s, t) := a.step s t
      a.proceed n s t

/-- Take tasks on, one after the other. -/
def inTurn (take : State → Task → State × Task) (s : State) : List Task → State × List Task
  | [] => (s, [])
  | t :: rest =>
    let (s, t) := take s t
    let (s, rest) := inTurn take s rest
    (s, t :: rest)

/-- Requests that arrive together: each goes on until it waits, and then to its end. -/
def together (a : App) (s : State) (tasks : List Task) : State × List Task :=
  let (s, waiting) := inTurn (a.proceed lifetime) s tasks
  inTurn (a.steps lifetime) s waiting

end App
end InjectingProxy
