import QuoteDesk.Fault
import QuoteDesk.Log

/-!
# Event bus

Handlers are registered for one kind of event each and are called in the order of their
registration. A handler may be held weakly; when its owner dies it is skipped, and its registrations
are taken away after the delivery, by their places in the roster as it was when the delivery
started. A handler may act on the bus while it is called. What it raises is noted and the delivery
goes on.
-/

namespace QuoteDesk

/-- An event: its kind and its fields. -/
structure BusEvent where
  kind : String
  fields : Entries

/-- A handler: its name, the label under which records mention it, and whether the bus holds it
weakly. -/
structure Handler where
  name : String
  label : String
  weak : Bool
deriving DecidableEq, Repr

/-- What a handler, or anyone outside, does with a bus. -/
inductive BusAction where
  | subscribe (kind : String) (handler : Handler)
  | unsubscribe (kind : String) (handler : Handler)
  | publish (event : BusEvent)
  | clear
  /-- The owner of a handler lets go of it. -/
  | release (handler : Handler)
  | raise (fault : Fault)

/-- An event bus at work. Rosters are numbered and stay known when the bus no longer uses them. A
weakly held handler lives until its owner has let go of it and no delivery holds it. -/
structure EventBus where
  rosters : List (List Handler)
  /-- The number of the roster of each kind of event, in the order in which the kinds first came. -/
  attached : List (String × Nat)
  released : List String
  /-- The handlers that deliveries hold while they call them. -/
  held : List String
  delivered : List (String × BusEvent)
  log : List LogRecord
  /-- How many actions the handlers may still take; later ones have no effect. -/
  allowance : Nat

/-- How handlers act: what each one does when it is called with an event. -/
abbrev Behaviour := EventBus → Handler → BusEvent → List BusAction

namespace EventBus

def logger : String := "quotewise.session.events"

def empty (allowance : Nat) : EventBus := ⟨[], [], [], [], [], [], allowance⟩

def record (bus : EventBus) (entry : LogRecord) : EventBus :=
  { bus with log := bus.log ++ [entry] }

/-! ## Registrations -/

def roster (bus : EventBus) (number : Nat) : List Handler :=
  bus.rosters.getD number []

def setRoster (bus : EventBus) (number : Nat) (handlers : List Handler) : EventBus :=
  { bus with rosters := bus.rosters.set number handlers }

/-- The number of the roster of a kind of event. -/
def number? (bus : EventBus) (kind : String) : Option Nat :=
  bus.attached.lookup kind

def handlersOf (bus : EventBus) (kind : String) : List Handler :=
  ((bus.number? kind).map bus.roster).getD []

def count (bus : EventBus) : Nat :=
  bus.attached.foldl (fun count entry => count + (bus.roster entry.2).length) 0

/-- Whether a handler can be called. -/
def isAlive (bus : EventBus) (handler : Handler) : Bool :=
  !handler.weak || !bus.released.contains handler.name || bus.held.contains handler.name

def subscribe (bus : EventBus) (kind : String) (handler : Handler) : EventBus :=
  let bus := match bus.number? kind with
    | some number => bus.setRoster number (bus.roster number ++ [handler])
    | none => { bus with
        rosters := bus.rosters ++ [[handler]]
        attached := bus.attached ++ [(kind, bus.rosters.length)] }
  bus.record (.debug logger s!"Subscribed handler {handler.label} to event type {kind}")

/-- Takes the first registration of a handler away, if there is one. -/
def unsubscribe (bus : EventBus) (kind : String) (handler : Handler) : EventBus :=
  match bus.number? kind with
  | none => bus
  | some number =>
    if bus.isAlive handler then
      bus.setRoster number ((bus.roster number).eraseP fun other => other.name = handler.name)
    else bus

def clear (bus : EventBus) : EventBus :=
  { bus with attached := [] }

/-! ## Delivery -/

/-- Lets go of a handler that a delivery held. -/
def letGo (bus : EventBus) (handler : Option Handler) : EventBus :=
  match handler with
  | none => bus
  | some handler => { bus with held := bus.held.erase handler.name }

def hold (bus : EventBus) (handler : Handler) : EventBus :=
  { bus with held := handler.name :: bus.held }

/-- Takes registrations away by their places, which are in descending order; the first place that
is not there ends the work. -/
def prune (bus : EventBus) (number : Nat) : List Nat → Option Fault × EventBus
  | [] => (none, bus)
  | place :: rest =>
    if place < (bus.roster number).length then
      (bus.setRoster number ((bus.roster number).eraseIdx place)).prune number rest
    else (some (.indexOutOfRange "pop index out of range"), bus)

def noteRaised (bus : EventBus) (handler : Handler) (event : BusEvent) : EventBus :=
  bus.record (.error logger
    s!"Handler {handler.label} raised exception for event {event.kind}")

/-- Calls handlers one after the other and finds the places of those that are dead, the last one
first. The handler called last is held until the next one is looked at. -/
def callAll (call : EventBus → Handler → Option Fault × EventBus) (event : BusEvent)
    (holding : Option Handler) (place : Nat) (dead : List Nat) (bus : EventBus) :
    List Handler → List Nat × Option Handler × EventBus
  | [] => (dead, holding, bus)
  | handler :: rest =>
    if bus.isAlive handler then
      match call ((bus.hold handler).letGo holding) handler with
      | (none, bus) => callAll call event (some handler) (place + 1) dead bus rest
      | (some _, bus) =>
        callAll call event (some handler) (place + 1) dead (bus.noteRaised handler event) rest
    else callAll call event none (place + 1) (place :: dead) (bus.letGo holding) rest

/-- Publishes an event; `call` is what happens when a handler is called. -/
def publishWith (call : EventBus → Handler → Option Fault × EventBus) (bus : EventBus)
    (event : BusEvent) : Option Fault × EventBus :=
  match bus.number? event.kind with
  | none => (none, bus)
  | some number =>
    let handlers := bus.roster number
    let bus := bus.record (.debug logger
      s!"Publishing {event.kind} to {handlers.length} handler(s)")
    let (dead, holding, bus) := callAll call event none 0 [] bus handlers
    let (fault, bus) := bus.prune number dead
    (fault, bus.letGo holding)

/-- Performs an action; `publish` is how an event is published. A handler is registered or taken
away on behalf of its owner alone: once the owner has let go of it, neither has an effect, also
while a delivery still holds the handler and could act on it by itself. -/
def perform (publish : EventBus → BusEvent → Option Fault × EventBus) (bus : EventBus) :
    BusAction → Option Fault × EventBus
  | .subscribe kind handler =>
    (none, if bus.released.contains handler.name then bus else bus.subscribe kind handler)
  | .unsubscribe kind handler =>
    (none, if bus.released.contains handler.name then bus else bus.unsubscribe kind handler)
  | .publish event => publish bus event
  | .clear => (none, bus.clear)
  | .release handler => (none, { bus with released := handler.name :: bus.released })
  | .raise fault => (some fault, bus)

/-- Performs the actions of a handler up to the first one that raises. -/
def performAll (publish : EventBus → BusEvent → Option Fault × EventBus) (bus : EventBus) :
    List BusAction → Option Fault × EventBus
  | [] => (none, bus)
  | action :: rest =>
    match bus.allowance with
    | 0 => (none, bus)
    | allowance + 1 =>
      match perform publish { bus with allowance := allowance } action with
      | (none, bus) => performAll publish bus rest
      | raised => raised

/-- Calls a handler: the event is delivered and the handler acts. -/
def callHandler (behaviour : Behaviour) (publish : EventBus → BusEvent → Option Fault × EventBus)
    (event : BusEvent) (bus : EventBus) (handler : Handler) : Option Fault × EventBus :=
  let actions := behaviour bus handler event
  performAll publish { bus with delivered := bus.delivered ++ [(handler.name, event)] } actions

/-- Publishes an event inside at most `depth` further deliveries. -/
def publishWithin (behaviour : Behaviour) (depth : Nat) (bus : EventBus) (event : BusEvent) :
    Option Fault × EventBus :=
  match depth with
  | 0 => (none, bus)
  | depth + 1 =>
    publishWith (callHandler behaviour (publishWithin behaviour depth) event) bus event

/-- Publishes an event. A delivery inside another one takes an action, so the allowance bounds how
deep deliveries go. -/
def publish (behaviour : Behaviour) (bus : EventBus) (event : BusEvent) : Option Fault × EventBus :=
  publishWithin behaviour (bus.allowance + 1) bus event

def act (behaviour : Behaviour) (bus : EventBus) (action : BusAction) : Option Fault × EventBus :=
  perform (publish behaviour) bus action

end EventBus

end QuoteDesk
