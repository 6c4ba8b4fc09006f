import Mathlib.Data.List.Basic
import QuoteDesk.Session.Bus

/-!
# The turns of a delivery

A delivery goes through the registrations that there are when it starts.  Each of
them has its turn: the bus as the turns before it left it, and the handler that was
called last and is still held.
-/

namespace QuoteDesk

/-- The turn of a registration in a delivery. -/
structure BusTurn where
  handler : Handler
  holding : Option Handler
  bus : EventBus

namespace EventBus

abbrev Publisher := EventBus → BusEvent → Option Fault × EventBus

abbrev Caller := EventBus → Handler → Option Fault × EventBus

end EventBus

namespace BusTurn

open EventBus (Caller)

def isAlive (turn : BusTurn) : Bool :=
  turn.bus.isAlive turn.handler

/-- The bus at which the handler is called: it is held, and the one before is let go. -/
def begun (turn : BusTurn) : EventBus :=
  (turn.bus.hold turn.handler).letGo turn.holding

/-- The bus that a call leaves; what was raised is noted. -/
def noting (event : BusEvent) (turn : BusTurn) (called : Option Fault × EventBus) : EventBus :=
  match called.1 with
  | none => called.2
  | some _ => called.2.noteRaised turn.handler event

/-- The handler that is held after a turn, and the bus. -/
def leaves (call : Caller) (event : BusEvent) (turn : BusTurn) : Option Handler × EventBus :=
  if turn.isAlive then
    (some turn.handler, turn.noting event (call turn.begun turn.handler))
  else (none, turn.bus.letGo turn.holding)

end BusTurn

namespace EventBus

/-- The turns of some registrations, one after the other. -/
def turns (call : Caller) (event : BusEvent) (start : Option Handler × EventBus) :
    List Handler → List BusTurn
  | [] => []
  | handler :: rest =>
      let turn : BusTurn := ⟨handler, start.1, start.2⟩
      turn :: turns call event (turn.leaves call event) rest

/-- What is left when some registrations have had their turns. -/
def afterTurns (call : Caller) (event : BusEvent) (start : Option Handler × EventBus)
    (handlers : List Handler) : Option Handler × EventBus :=
  handlers.foldl (fun left handler => BusTurn.leaves call event ⟨handler, left.1, left.2⟩) start

/-- The places of the turns whose handlers were dead. -/
def deadPlaces (turns : List BusTurn) : List Nat :=
  turns.findIdxs fun turn => !turn.isAlive

variable (call : Caller) (event : BusEvent)

@[simp]
theorem turns_cons
    (start : Option Handler × EventBus) (handler : Handler) (rest : List Handler) :
    turns call event start (handler :: rest) =
      ⟨handler, start.1, start.2⟩ ::
        turns call event (BusTurn.leaves call event ⟨handler, start.1, start.2⟩) rest := rfl

@[simp]
theorem afterTurns_cons
    (start : Option Handler × EventBus) (handler : Handler) (rest : List Handler) :
    afterTurns call event start (handler :: rest) =
      afterTurns call event (BusTurn.leaves call event ⟨handler, start.1, start.2⟩) rest := rfl

theorem callAll_cons
    (start : Option Handler × EventBus) (place : Nat) (dead : List Nat)
    (handler : Handler) (rest : List Handler) :
    let turn : BusTurn := ⟨handler, start.1, start.2⟩
    callAll call event start.1 place dead start.2 (handler :: rest) =
      callAll call event (turn.leaves call event).1 (place + 1)
        (if turn.isAlive then dead else place :: dead) (turn.leaves call event).2 rest := by
  intro turn
  rw [callAll, BusTurn.leaves]
  by_cases alive : start.2.isAlive handler
  · have turnAlive : turn.isAlive = true := alive
    rw [if_pos alive, if_pos turnAlive, if_pos turnAlive]
    have called : turn.begun = (start.2.hold handler).letGo start.1 := rfl
    rw [called]
    rcases call ((start.2.hold handler).letGo start.1) handler with ⟨_ | fault, next⟩
    · rfl
    · rfl
  · have turnDead : ¬ turn.isAlive = true := alive
    rw [if_neg alive, if_neg turnDead, if_neg turnDead]

/-- Calling all handlers is going through their turns. -/
theorem callAll_eq
    (start : Option Handler × EventBus) (place : Nat) (dead : List Nat)
    (handlers : List Handler) :
    callAll call event start.1 place dead start.2 handlers =
      (((turns call event start handlers).findIdxs (fun turn => !turn.isAlive) place).reverse ++
          dead,
        afterTurns call event start handlers) := by
  induction handlers generalizing start place dead with
  | nil => rfl
  | cons handler rest inductionHypothesis =>
      let turn : BusTurn := ⟨handler, start.1, start.2⟩
      rw [callAll_cons, inductionHypothesis (turn.leaves call event)]
      have first : turns call event start (handler :: rest) =
          turn :: turns call event (turn.leaves call event) rest := rfl
      rw [first, List.findIdxs_cons]
      refine Prod.ext ?_ rfl
      by_cases alive : turn.isAlive
      · rw [if_pos alive, if_neg (by simp [alive])]
      · rw [if_neg alive, if_pos (by simp [alive]), List.reverse_cons, List.append_assoc,
          List.singleton_append]

/-- The bus with the record that an event is published. -/
def announcing (bus : EventBus) (event : BusEvent) : EventBus :=
  bus.record (.debug logger
    s!"Publishing {event.kind} to {(bus.handlersOf event.kind).length} handler(s)")

theorem handlersOf_of_number?
    {bus : EventBus} {kind : String} {number : Nat} (known : bus.number? kind = some number) :
    bus.handlersOf kind = bus.roster number := by
  rw [handlersOf, known]
  rfl

theorem handlersOf_of_unknown
    {bus : EventBus} {kind : String} (unknown : bus.number? kind = none) :
    bus.handlersOf kind = [] := by
  rw [handlersOf, unknown]
  rfl

theorem publishWith_of_unknown
    {bus : EventBus} (unknown : bus.number? event.kind = none) :
    publishWith call bus event = (none, bus) := by
  rw [publishWith, unknown]

/-- A delivery lets every registration have its turn and then prunes the roster. -/
theorem publishWith_of_number?
    {bus : EventBus} {number : Nat} (known : bus.number? event.kind = some number) :
    let start : Option Handler × EventBus := (none, bus.announcing event)
    let left := afterTurns call event start (bus.handlersOf event.kind)
    let dead := deadPlaces (turns call event start (bus.handlersOf event.kind))
    publishWith call bus event =
      ((left.2.prune number dead.reverse).1,
        (left.2.prune number dead.reverse).2.letGo left.1) := by
  intro start left dead
  have handlers := handlersOf_of_number? known
  have called := callAll_eq call event start 0 [] (bus.handlersOf event.kind)
  rw [List.append_nil] at called
  rw [publishWith, known]
  dsimp only
  rw [← handlers]
  exact congrArg
    (fun result : List Nat × Option Handler × EventBus =>
      ((result.2.2.prune number result.1).1,
        (result.2.2.prune number result.1).2.letGo result.2.1)) called

end EventBus

end QuoteDesk
