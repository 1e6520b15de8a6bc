import InjectingProxy.App.Route
import InjectingProxy.Config.Basic
import InjectingProxy.Cookie
import InjectingProxy.Event
import InjectingProxy.Metrics.Exposition
import InjectingProxy.Metrics.Meter
import InjectingProxy.Relay

/-!
# The proxy application

The gate decides whether a request gets the injected error or is handed to the relay, and every
request is measured.

## What is here

* `App`, `App.State`: what stays fixed, and what is carried from one request to the next.
* `App.receive`: what becomes of a request at the gate.
* `App.handle`: what is done with a request before anything is sent.
* `Exchange.recover`: the reply after a fault that nothing else answers.
* `App.remember`: what the client for the backend keeps of an answer.
* `App.serve`, `App.run`: a request from its arrival to its end, and requests one after the other.
* `App.shutDown`: the end of the application.
-/

set_option autoImplicit false

namespace InjectingProxy

/-- The handling with headers for cookies in the requests to the backend, given by the address. -/
def Handling.withCookies (h : Handling) (header? : Url → Option Bytes) : Handling :=
  { h with outbound := h.outbound.map fun o => o.withCookies (header? o.url) }

/-- The application: its configuration, what decides on injected errors, whether the client for the
backend is its own, and what a client that is passed in does about cookies.  Such a client is made
to keep none, too, unless something else is said. -/
structure App where
  config : Config
  decider : Decider
  ownsBackend : Bool
  passed : Cookie.Keeping := Cookie.Policy.closed.keeping

namespace App

/-- What the client for the backend does about cookies.  That of the application keeps none. -/
def cookies (a : App) : Cookie.Keeping :=
  if a.ownsBackend then Cookie.Policy.closed.keeping else a.passed

/-- What is carried from one request to the next: how many requests have been counted, the meter,
whether the client for the backend is open, and the cookies that it has kept. -/
structure State where
  asked : Int
  meter : Meter Float
  backendOpen : Bool
  jar : Cookie.Jar

/-- The application for a configuration, with the gate of the configuration. -/
def ofConfig (config : Config) : App where
  config := config
  decider := .gate config.gate
  ownsBackend := false

/-- The state before any request. -/
def State.initial : State where
  asked := 0
  meter := ⟨.empty Exposition.bounds, 0⟩
  backendOpen := true
  jar := []

/-- What is done with a request that gets the injected error. -/
def inject (a : App) : Handling where
  result := ((Reply.injected a.config.errorStatus).map Response.reply).mapError Fault.characters
  outbound := []
  dropped := none
  recorded := [.errorInjected]
  events := [.injecting a.config.errorStatus]

/-- What is done with a request that gets no injected error.  The client for the backend sends the
cookies along that it has kept. -/
def forward (a : App) (s : State) (r : Request) (b : Backend) : Handling :=
  (Relay.handle a.config.backendRoot.toList s.backendOpen r.method r.address r.params b).withCookies
    (a.cookies.header? s.jar)

/-- A handling that ends with a reply at once. -/
def settled (result : Except Fault Response) : Handling where
  result := result
  outbound := []
  dropped := none
  recorded := []
  events := []

/-- What becomes of a request at the gate. -/
inductive Admission where
  /-- It is answered without being counted. -/
  | aside (result : Except Fault Response)
  /-- It is counted with this ordinal, and gets the injected error or not. -/
  | counted (ordinal : Int) (inject : Bool)

/-- What becomes of a request at the gate when `asked` have been counted before it.  A request that
leads nowhere, or whose query is no text, is not counted. -/
def receive (a : App) (asked : Int) (r : Request) : Admission :=
  if Route.isServed r.path then
    match Utf8.decode r.queryBytes with
    | .error f => .aside (.error (.query f r.queryBytes))
    | .ok _ => .counted (asked + 1) (a.decider.decision asked)
  else
    match Route.other? r.path with
    | none => .aside (.ok (.reply Reply.notFound))
    | some other =>
      match Utf8.decode r.queryBytes with
      | .error f => .aside (.error (.query f r.queryBytes))
      | .ok query => .aside (.ok (.reply (Reply.elsewhere (Route.location r query other))))

/-- What is told of a request that has been counted. -/
def told (a : App) (r : Request) (ordinal : Int) (inject : Bool) : List Event :=
  .serving r.method r.address ::
    match a.decider with
    | .gate _ => [.decided ordinal inject]
    | .script _ => []

/-- What is done with a request before anything is sent, and how many requests have then been
counted. -/
def handle (a : App) (s : State) (r : Request) (b : Backend) : Handling × Int :=
  match a.receive s.asked r with
  | .aside result => (settled result, s.asked)
  | .counted ordinal inject =>
    let h := if inject then a.inject else a.forward s r b
    ({ h with events := a.told r ordinal inject ++ h.events }, ordinal)

end App

/-- After a fault before any response, the client is told that something has gone wrong.  If that
message fails, its fault comes out instead. -/
def Exchange.recover (x : Exchange) (c : Client) : Exchange :=
  match x.response, x.raised with
  | none, some f =>
    let d := Reply.internalError.script.deliver c false
    { x with messages := x.messages ++ d.messages, raised := some (d.ending.fault?.getD f) }
  | _, _ => x

namespace App

/-- A request that has been served: the exchange, how many requests were in flight each time the
backend was asked, and the state afterwards. -/
structure Served where
  exchange : Exchange
  seenInFlight : List Int
  state : State

/-- A request begins to be measured. -/
def State.enter (s : State) : State := { s with meter := s.meter.start }

/-- The outcomes of a request are recorded, and time passes if the backend was asked. -/
def State.absorb (s : State) (h : Handling) (delay : Float) : State :=
  let recorded := { s.meter with ledger := s.meter.ledger.recordAll h.recorded }
  { s with meter := if h.outbound.isEmpty then recorded else recorded.advance delay }

/-- The client for the backend keeps cookies of its answer to a request.  It gets to that only if
the address is read again as it is meant. -/
def remember (a : App) (s : State) (h : Handling) (b : Backend) : State :=
  let read := h.outbound.filter fun o => !o.url.scheme.isEmpty && o.url.misreading?.isNone
  { s with jar :=
      match b with
      | .fails _ => s.jar
      | .answers given => read.foldl (fun jar o => a.cookies.keep jar o.url given) s.jar }

/-- Where nothing has been asked of the backend, there is nothing to keep. -/
theorem remember_of_outbound_eq_nil (a : App) (s : State) {h : Handling} (hnil : h.outbound = [])
    (b : Backend) : a.remember s h b = s := by
  cases b <;> simp [remember, hnil]

/-- How many requests were in flight each time the backend was asked, if so many are now. -/
def State.seenBy (s : State) (h : Handling) : List Int :=
  h.outbound.map fun _ => s.meter.ledger.inFlight

/-- The exchange in which a handled request ends. -/
def answer (h : Handling) (w : Surroundings) : Exchange :=
  (h.respond w.client w.version).recover w.client

/-- The measuring of a request that began at a given time is over. -/
def State.leave (s : State) (began : Float) (x : Exchange) : State × Exchange :=
  let (note, meter) := s.meter.finish began
  ({ s with meter }, { x with events := x.events ++ [.processed note.elapsed note.inFlight] })

/-- Serve a request. -/
def serve (a : App) (s : State) (r : Request) (w : Surroundings) : Served :=
  let entered := s.enter
  let (h, asked) := a.handle entered r w.backend
  let remembering := a.remember { entered with asked } h w.backend
  let (state, exchange) := (remembering.absorb h w.delay).leave s.meter.now (answer h w)
  { exchange, seenInFlight := entered.seenBy h, state }

/-- What a connection of another kind gets: it is closed. -/
def refuse (c : Client) : Delivery :=
  Script.deliver c false ⟨[⟨.closed, .untouched⟩], .untouched, .complete⟩

/-- Serve requests one after the other. -/
def run (a : App) (s : State) : List (Request × Surroundings) → List Served
  | [] => []
  | (r, w) :: rest =>
    let served := a.serve s r w
    served :: a.run served.state rest

/-- The messages of an application that starts and ends. -/
def lifeMessages : List Message := [.ready, .finished]

/-- The end of the application: a client for the backend of its own is closed. -/
def shutDown (a : App) (s : State) : State :=
  { s with backendOpen := s.backendOpen && !a.ownsBackend }

end App
end InjectingProxy
