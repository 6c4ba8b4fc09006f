import Mathlib.Data.List.Chain
import QuoteDesk.Proofs.Bus.Nesting

/-!
# What a delivery delivers

The registrations that a delivery serves are those that there are when it starts,
whatever its handlers do to the bus.  A turn delivers the event to its handler, if it
is still alive, and then whatever the actions of that handler deliver in turn.
-/

namespace QuoteDesk

theorem EventBus.delivered_letGo (bus : EventBus) (holding : Option Handler) :
    (bus.letGo holding).delivered = bus.delivered := by
  cases holding with
  | none => rfl
  | some handler => rfl

open EventBus

namespace BusTurn

variable (behaviour : Behaviour) (event : BusEvent)

/-- The deliveries that the handler brings about while it is called. -/
def echoes (turn : BusTurn) : List (String × BusEvent) :=
  let told := turn.begun.telling turn.handler event
  let actions := behaviour turn.begun turn.handler event
  (performAll (publish behaviour) told actions).2.delivered.drop told.delivered.length

/-- The deliveries of a turn: the one to its own handler comes first. -/
def deliveries (turn : BusTurn) : List (String × BusEvent) :=
  if turn.isAlive then (turn.handler.name, event) :: turn.echoes behaviour event else []

/-- A turn that finds the bus and the held handler as another one leaves them. -/
def Follows (turn next : BusTurn) : Prop :=
  (next.holding, next.bus) = turn.leaves (calling behaviour event) event

theorem delivered_begun (turn : BusTurn) : turn.begun.delivered = turn.bus.delivered :=
  delivered_letGo _ turn.holding

theorem delivered_noting (turn : BusTurn) (called : Option Fault × EventBus) :
    (turn.noting event called).delivered = called.2.delivered := by
  rcases called with ⟨_ | fault, next⟩
  · rfl
  · rfl

theorem delivered_calling (turn : BusTurn) :
    (calling behaviour event turn.begun turn.handler).2.delivered =
      turn.bus.delivered ++ (turn.handler.name, event) :: turn.echoes behaviour event := by
  let told := turn.begun.telling turn.handler event
  let actions := behaviour turn.begun turn.handler event
  have noted : told.delivered = turn.bus.delivered ++ [(turn.handler.name, event)] := by
    rw [← turn.delivered_begun]
    rfl
  have acted : told.Reaches (performAll (publish behaviour) told actions).2 :=
    reaches_performAll (onward_publish behaviour) told actions
  have split : (performAll (publish behaviour) told actions).2.delivered =
      told.delivered ++ turn.echoes behaviour event :=
    (List.prefix_iff_eq_append.mp acted.delivered).symm
  calc (calling behaviour event turn.begun turn.handler).2.delivered
      = told.delivered ++ turn.echoes behaviour event := split
    _ = turn.bus.delivered ++ (turn.handler.name, event) :: turn.echoes behaviour event := by
        rw [noted, List.append_assoc, List.singleton_append]

theorem delivered_leaves (turn : BusTurn) :
    (turn.leaves (calling behaviour event) event).2.delivered =
      turn.bus.delivered ++ turn.deliveries behaviour event := by
  unfold leaves deliveries
  by_cases alive : turn.isAlive
  · rw [if_pos alive, if_pos alive]
    exact (turn.delivered_noting event _).trans (turn.delivered_calling behaviour event)
  · rw [if_neg alive, if_neg alive, List.append_nil]
    exact delivered_letGo turn.bus turn.holding

end BusTurn

namespace EventBus

/-! ## The turns of one delivery -/

variable (behaviour : Behaviour) (bus : EventBus) (event : BusEvent)

/-- The turns of the delivery of an event. -/
def turnsOf : List BusTurn :=
  turns (calling behaviour event) event (none, bus.announcing event) (bus.handlersOf event.kind)

/-- What the last of these turns leaves. -/
def served : Option Handler × EventBus :=
  afterTurns (calling behaviour event) event (none, bus.announcing event)
    (bus.handlersOf event.kind)

theorem publish_of_unknown (unknown : bus.number? event.kind = none) :
    publish behaviour bus event = (none, bus) :=
  (publish_eq behaviour bus event).trans (publishWith_of_unknown _ event unknown)

theorem publish_of_number? {number : Nat} (known : bus.number? event.kind = some number) :
    publish behaviour bus event =
      (((served behaviour bus event).2.prune number
          (deadPlaces (turnsOf behaviour bus event)).reverse).1,
        ((served behaviour bus event).2.prune number
          (deadPlaces (turnsOf behaviour bus event)).reverse).2.letGo
            (served behaviour bus event).1) :=
  (publish_eq behaviour bus event).trans (publishWith_of_number? _ event known)

/-- The course of a delivery: every registration that there was at its start has one
turn, the first finds the bus as it was announced and every other one what the turn
before it left. -/
structure Serving (turns : List BusTurn) : Prop where
  registrations : turns.map BusTurn.handler = bus.handlersOf event.kind
  opens : ∀ turn ∈ turns.head?, (turn.holding, turn.bus) = (none, bus.announcing event)
  follows : turns.IsChain (BusTurn.Follows behaviour event)

section Course

variable {behaviour event} {start : Option Handler × EventBus}

/-- Every handler has one turn, in the order of the registrations. -/
theorem map_handler_turns (call : Caller) (handlers : List Handler) :
    (turns call event start handlers).map BusTurn.handler = handlers := by
  induction handlers generalizing start with
  | nil => rfl
  | cons handler rest inductionHypothesis =>
      rw [turns_cons, List.map_cons, inductionHypothesis]

theorem opens_turns (call : Caller) (handlers : List Handler) :
    ∀ turn ∈ (turns call event start handlers).head?, (turn.holding, turn.bus) = start := by
  cases handlers with
  | nil =>
      intro turn first
      exact absurd first (Option.not_mem_none turn)
  | cons handler rest =>
      rintro turn ⟨⟩
      rfl

theorem isChain_turns (handlers : List Handler) :
    (turns (calling behaviour event) event start handlers).IsChain
      (BusTurn.Follows behaviour event) := by
  induction handlers generalizing start with
  | nil => exact .nil
  | cons handler rest inductionHypothesis =>
      rw [turns_cons, List.isChain_cons]
      exact ⟨opens_turns _ rest, inductionHypothesis⟩

/-- Turns are known from what the first one finds. -/
theorem eq_turns_of_isChain
    {course : List BusTurn} (opens : ∀ turn ∈ course.head?, (turn.holding, turn.bus) = start)
    (follows : course.IsChain (BusTurn.Follows behaviour event)) :
    course = turns (calling behaviour event) event start (course.map BusTurn.handler) := by
  -- The first turn fixes what the second one finds, and so on along the course.
  induction course generalizing start with
  | nil => rfl
  | cons turn rest inductionHypothesis =>
      obtain ⟨next, restFollows⟩ := List.isChain_cons.mp follows
      have found : (turn.holding, turn.bus) = start := opens turn rfl
      subst found
      rw [List.map_cons, turns_cons]
      exact congrArg (turn :: ·) (inductionHypothesis next restFollows)

theorem delivered_afterTurns (handlers : List Handler) :
    (afterTurns (calling behaviour event) event start handlers).2.delivered =
      start.2.delivered ++
        (turns (calling behaviour event) event start handlers).flatMap
          (BusTurn.deliveries behaviour event) := by
  induction handlers generalizing start with
  | nil => exact (List.append_nil _).symm
  | cons handler rest inductionHypothesis =>
      rw [afterTurns_cons, inductionHypothesis, BusTurn.delivered_leaves, turns_cons,
        List.flatMap_cons, List.append_assoc]

end Course

theorem delivered_prune (number : Nat) (places : List Nat) :
    (bus.prune number places).2.delivered = bus.delivered := by
  induction places generalizing bus with
  | nil => rfl
  | cons place rest inductionHypothesis =>
      unfold prune
      split
      · exact inductionHypothesis _
      · rfl

/-- A publish delivers what its turns deliver, one after the other. -/
theorem delivered_publish :
    (publish behaviour bus event).2.delivered =
      bus.delivered ++
        (turnsOf behaviour bus event).flatMap (BusTurn.deliveries behaviour event) := by
  cases known : bus.number? event.kind with
  | none =>
      rw [publish_of_unknown behaviour bus event known, turnsOf, handlersOf_of_unknown known]
      exact (List.append_nil _).symm
  | some number =>
      rw [publish_of_number? behaviour bus event known, delivered_letGo, delivered_prune]
      exact delivered_afterTurns _

/-- One event is delivered to exactly the registrations for its kind that there are
when it is published and whose handlers are alive at their turns, to each of them once
and in their order.  Between two of these deliveries stand only those that the former
handler brings about. -/
theorem publish_serves_registrations :
    ∃! turns : List BusTurn,
      Serving behaviour bus event turns ∧
      (publish behaviour bus event).2.delivered =
        bus.delivered ++ turns.flatMap (BusTurn.deliveries behaviour event) := by
  have serving : Serving behaviour bus event (turnsOf behaviour bus event) :=
    { registrations := map_handler_turns _ _
      opens := opens_turns _ _
      follows := isChain_turns _ }
  refine ⟨turnsOf behaviour bus event, ⟨serving, delivered_publish behaviour bus event⟩, ?_⟩
  rintro other ⟨otherServing, -⟩
  have known := eq_turns_of_isChain otherServing.opens otherServing.follows
  rw [otherServing.registrations] at known
  exact known

/-- A registration that is taken away meanwhile still has its turn, and one that is made
meanwhile has none. -/
example :
    let first : Handler := ⟨"first", "first", false⟩
    let second : Handler := ⟨"second", "second", false⟩
    let third : Handler := ⟨"third", "third", false⟩
    let clearing : Behaviour := fun _ handler event =>
      if handler = first then [.clear, .subscribe event.kind third] else []
    let bus := ((empty 9).subscribe "BomReady" first).subscribe "BomReady" second
    (publish clearing bus ⟨"BomReady", []⟩).2.delivered.map Prod.fst = ["first", "second"] := by
  decide +kernel

end EventBus

end QuoteDesk
