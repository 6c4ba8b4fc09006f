import QuoteDesk.Proofs.Bus.Turns

/-!
# Deliveries inside deliveries

Whatever is done with a bus, the actions that handlers may still take become no more
and the deliveries made stay.  Every action of a handler is spent, so the bound on
the depth of deliveries is never met: an event that a handler publishes is published
like one from outside.
-/

namespace QuoteDesk

namespace EventBus

/-! ## Work on a bus -/

/-- A bus and the bus after some work: no action was gained and no delivery lost. -/
structure Reaches (bus after : EventBus) : Prop where
  spent : after.allowance ≤ bus.allowance
  delivered : bus.delivered <+: after.delivered

namespace Reaches

theorem refl (bus : EventBus) : bus.Reaches bus :=
  ⟨Nat.le_refl _, List.prefix_rfl⟩

theorem trans
    {bus middle after : EventBus}
    (first : bus.Reaches middle) (second : middle.Reaches after) : bus.Reaches after :=
  ⟨Nat.le_trans second.spent first.spent, first.delivered.trans second.delivered⟩

theorem of_eq
    {bus after : EventBus} (allowance : after.allowance = bus.allowance)
    (delivered : after.delivered = bus.delivered) : bus.Reaches after :=
  ⟨Nat.le_of_eq allowance, delivered ▸ List.prefix_rfl⟩

end Reaches

section Parts

variable (bus : EventBus)

theorem reaches_letGo (holding : Option Handler) : bus.Reaches (bus.letGo holding) := by
  cases holding with
  | none => exact .refl bus
  | some handler => exact .of_eq rfl rfl

theorem reaches_subscribe (kind : String) (handler : Handler) :
    bus.Reaches (bus.subscribe kind handler) := by
  unfold subscribe
  cases bus.number? kind with
  | none => exact .of_eq rfl rfl
  | some number => exact .of_eq rfl rfl

theorem reaches_unsubscribe (kind : String) (handler : Handler) :
    bus.Reaches (bus.unsubscribe kind handler) := by
  unfold unsubscribe
  cases bus.number? kind with
  | none => exact .refl bus
  | some number =>
      dsimp only
      split
      · exact .of_eq rfl rfl
      · exact .refl bus

theorem reaches_prune (number : Nat) (places : List Nat) :
    bus.Reaches (bus.prune number places).2 := by
  induction places generalizing bus with
  | nil => exact .refl bus
  | cons place rest inductionHypothesis =>
      unfold prune
      split
      · have erased : bus.Reaches
            (bus.setRoster number ((bus.roster number).eraseIdx place)) := .of_eq rfl rfl
        exact erased.trans (inductionHypothesis _)
      · exact .refl bus

end Parts

/-- A publisher that leads every bus onward. -/
def Publisher.Onward (publish : Publisher) : Prop :=
  ∀ bus event, Reaches bus (publish bus event).2

def Caller.Onward (call : Caller) : Prop :=
  ∀ bus handler, Reaches bus (call bus handler).2

end EventBus

open EventBus

/-! ## Turns -/

namespace BusTurn

theorem reaches_begun (turn : BusTurn) : turn.bus.Reaches turn.begun := by
  have held : turn.bus.Reaches (turn.bus.hold turn.handler) := .of_eq rfl rfl
  exact held.trans (reaches_letGo _ turn.holding)

theorem reaches_noting
    (turn : BusTurn) (event : BusEvent) (called : Option Fault × EventBus) :
    called.2.Reaches (turn.noting event called) := by
  rcases called with ⟨_ | fault, next⟩
  · exact .refl next
  · exact .of_eq rfl rfl

theorem reaches_leaves
    {call : Caller} (onward : call.Onward) (event : BusEvent) (turn : BusTurn) :
    turn.bus.Reaches (turn.leaves call event).2 := by
  unfold leaves
  split
  · have called := turn.reaches_begun.trans (onward turn.begun turn.handler)
    exact called.trans (turn.reaches_noting event _)
  · exact reaches_letGo turn.bus turn.holding

end BusTurn

namespace EventBus

theorem reaches_afterTurns
    {call : Caller} (onward : call.Onward) (event : BusEvent)
    (start : Option Handler × EventBus) (handlers : List Handler) :
    start.2.Reaches (afterTurns call event start handlers).2 := by
  induction handlers generalizing start with
  | nil => exact .refl start.2
  | cons handler rest inductionHypothesis =>
      let turn : BusTurn := ⟨handler, start.1, start.2⟩
      have first : start.2.Reaches (turn.leaves call event).2 :=
        turn.reaches_leaves onward event
      exact first.trans (inductionHypothesis (turn.leaves call event))

/-! ## Publishing and calling -/

theorem reaches_publishWith
    {call : Caller} (onward : call.Onward) (bus : EventBus) (event : BusEvent) :
    bus.Reaches (publishWith call bus event).2 := by
  cases known : bus.number? event.kind with
  | none =>
      rw [publishWith_of_unknown call event known]
      exact .refl bus
  | some number =>
      rw [publishWith_of_number? call event known]
      have announced : bus.Reaches (bus.announcing event) := .of_eq rfl rfl
      have served := announced.trans
        (reaches_afterTurns onward event (none, bus.announcing event) (bus.handlersOf event.kind))
      exact (served.trans (reaches_prune _ number _)).trans (reaches_letGo _ _)

/-- An action leads onward where publishing does. -/
theorem reaches_perform
    {publish : Publisher} (onward : publish.Onward) (bus : EventBus) (action : BusAction) :
    bus.Reaches (perform publish bus action).2 := by
  cases action with
  | subscribe kind handler =>
      simp only [perform]
      split
      · exact .refl bus
      · exact reaches_subscribe bus kind handler
  | unsubscribe kind handler =>
      simp only [perform]
      split
      · exact .refl bus
      · exact reaches_unsubscribe bus kind handler
  | publish event => exact onward bus event
  | clear => exact .of_eq rfl rfl
  | release handler => exact .of_eq rfl rfl
  | raise fault => exact .refl bus

/-- The bus with one action fewer, in front of an action. -/
def spending (bus : EventBus) : EventBus :=
  { bus with allowance := bus.allowance - 1 }

theorem reaches_spending (bus : EventBus) : bus.Reaches bus.spending :=
  ⟨Nat.sub_le _ _, List.prefix_rfl⟩

theorem performAll_cons
    (publish : Publisher) (bus : EventBus) (action : BusAction) (rest : List BusAction) :
    performAll publish bus (action :: rest) =
      if bus.allowance = 0 then (none, bus)
      else
        match perform publish bus.spending action with
        | (none, next) => performAll publish next rest
        | raised => raised := by
  rw [performAll]
  cases left : bus.allowance with
  | zero => rfl
  | succ allowance =>
      have spent : bus.spending = { bus with allowance := allowance } := by
        rw [spending, left, Nat.add_sub_cancel]
      have more : ¬ allowance + 1 = 0 := Nat.succ_ne_zero allowance
      rw [spent]
      exact (if_neg more).symm

theorem reaches_performAll
    {publish : Publisher} (onward : publish.Onward) (bus : EventBus) (actions : List BusAction) :
    bus.Reaches (performAll publish bus actions).2 := by
  induction actions generalizing bus with
  | nil => exact .refl bus
  | cons action rest inductionHypothesis =>
      have performed := bus.reaches_spending.trans (reaches_perform onward bus.spending action)
      rw [performAll_cons]
      split
      · exact .refl bus
      · rcases work : perform publish bus.spending action with ⟨_ | fault, next⟩
        · rw [work] at performed
          exact performed.trans (inductionHypothesis next)
        · rw [work] at performed
          exact performed

/-- The bus on which a handler that was called acts: the delivery is noted. -/
def telling (bus : EventBus) (handler : Handler) (event : BusEvent) : EventBus :=
  { bus with delivered := bus.delivered ++ [(handler.name, event)] }

theorem onward_callHandler
    {publish : Publisher} (onward : publish.Onward) (behaviour : Behaviour) (event : BusEvent) :
    Caller.Onward (callHandler behaviour publish event) := by
  intro bus handler
  have told : bus.Reaches (bus.telling handler event) :=
    ⟨Nat.le_refl _, List.prefix_append _ _⟩
  exact told.trans (reaches_performAll onward _ _)

theorem onward_publishWithin (behaviour : Behaviour) (depth : Nat) :
    Publisher.Onward (publishWithin behaviour depth) := by
  induction depth with
  | zero =>
      intro bus event
      exact .refl bus
  | succ depth inductionHypothesis =>
      intro bus event
      exact reaches_publishWith (onward_callHandler inductionHypothesis behaviour event) bus event

/-- A publish leads onward, however deep the deliveries in it go. -/
theorem onward_publish (behaviour : Behaviour) : Publisher.Onward (publish behaviour) :=
  fun bus => onward_publishWithin behaviour (bus.allowance + 1) bus

/-! ## The bound on the depth is not met -/

/-- Two publishers that agree on buses with fewer actions left than a number. -/
def Publisher.AgreeBelow (count : Nat) (one other : Publisher) : Prop :=
  ∀ bus event, bus.allowance < count → one bus event = other bus event

/-- Two callers that agree on buses with at most a number of actions left. -/
def Caller.AgreeUpTo (count : Nat) (one other : Caller) : Prop :=
  ∀ bus handler, bus.allowance ≤ count → one bus handler = other bus handler

theorem performAll_congr
    {one other : Publisher} {count : Nat}
    (agree : Publisher.AgreeBelow count one other) (onward : one.Onward)
    {bus : EventBus} (within : bus.allowance ≤ count) (actions : List BusAction) :
    performAll one bus actions = performAll other bus actions := by
  induction actions generalizing bus with
  | nil => rfl
  | cons action rest inductionHypothesis =>
      rw [performAll_cons, performAll_cons]
      by_cases none : bus.allowance = 0
      · rw [if_pos none, if_pos none]
      · rw [if_neg none, if_neg none]
        -- The action itself is spent, so an event that it publishes finds fewer left.
        have fewer : bus.spending.allowance < count := by
          have spent : bus.spending.allowance = bus.allowance - 1 := rfl
          omega
        have performed : perform one bus.spending action = perform other bus.spending action := by
          cases action with
          | publish event => exact agree bus.spending event fewer
          | subscribe | unsubscribe | clear | release | raise => rfl
        have reached := reaches_perform onward bus.spending action
        rw [← performed]
        rcases work : perform one bus.spending action with ⟨_ | fault, next⟩
        · rw [work] at reached
          exact inductionHypothesis (Nat.le_trans reached.spent (Nat.le_of_lt fewer))
        · rfl

theorem callHandler_congr
    {one other : Publisher} {count : Nat}
    (agree : Publisher.AgreeBelow count one other) (onward : one.Onward)
    (behaviour : Behaviour) (event : BusEvent) :
    Caller.AgreeUpTo count (callHandler behaviour one event)
      (callHandler behaviour other event) := by
  intro bus handler within
  have told : (bus.telling handler event).allowance ≤ count := within
  exact performAll_congr agree onward told _

theorem leaves_congr
    {one other : Caller} {count : Nat}
    (agree : Caller.AgreeUpTo count one other) (event : BusEvent)
    {turn : BusTurn} (within : turn.bus.allowance ≤ count) :
    turn.leaves one event = turn.leaves other event := by
  have called := agree turn.begun turn.handler (Nat.le_trans turn.reaches_begun.spent within)
  unfold BusTurn.leaves
  rw [called]

theorem turns_congr
    {one other : Caller} {count : Nat}
    (agree : Caller.AgreeUpTo count one other) (onward : one.Onward) (event : BusEvent)
    {start : Option Handler × EventBus} (within : start.2.allowance ≤ count)
    (handlers : List Handler) :
    turns one event start handlers = turns other event start handlers ∧
      afterTurns one event start handlers = afterTurns other event start handlers := by
  induction handlers generalizing start with
  | nil => exact ⟨rfl, rfl⟩
  | cons handler rest inductionHypothesis =>
      let turn : BusTurn := ⟨handler, start.1, start.2⟩
      have left : turn.leaves one event = turn.leaves other event :=
        leaves_congr agree event within
      have leftWithin : (turn.leaves one event).2.allowance ≤ count :=
        Nat.le_trans (turn.reaches_leaves onward event).spent within
      obtain ⟨sameTurns, sameEnd⟩ := inductionHypothesis leftWithin
      rw [left] at sameTurns sameEnd
      constructor
      · rw [turns_cons, turns_cons, ← sameTurns, ← left]
      · rw [afterTurns_cons, afterTurns_cons, ← sameEnd, ← left]

theorem publishWith_congr
    {one other : Caller} {count : Nat}
    (agree : Caller.AgreeUpTo count one other) (onward : one.Onward)
    {bus : EventBus} (within : bus.allowance ≤ count) (event : BusEvent) :
    publishWith one bus event = publishWith other bus event := by
  cases known : bus.number? event.kind with
  | none => rw [publishWith_of_unknown one event known, publishWith_of_unknown other event known]
  | some number =>
      let start : Option Handler × EventBus := (none, bus.announcing event)
      have startWithin : start.2.allowance ≤ count := within
      obtain ⟨sameTurns, sameEnd⟩ :=
        turns_congr agree onward event startWithin (bus.handlersOf event.kind)
      rw [publishWith_of_number? one event known, publishWith_of_number? other event known,
        sameTurns, sameEnd]

/-- Depths greater than the number of actions left make no difference. -/
theorem publishWithin_eq
    (behaviour : Behaviour) {depth other : Nat} {bus : EventBus}
    (enough : bus.allowance < depth) (otherEnough : bus.allowance < other) (event : BusEvent) :
    publishWithin behaviour depth bus event = publishWithin behaviour other bus event := by
  induction depth generalizing other bus event with
  | zero => exact absurd enough (Nat.not_lt_zero _)
  | succ depth inductionHypothesis =>
      cases other with
      | zero => exact absurd otherEnough (Nat.not_lt_zero _)
      | succ other =>
          have onward := onward_publishWithin behaviour depth
          have agree : Publisher.AgreeBelow bus.allowance (publishWithin behaviour depth)
              (publishWithin behaviour other) := by
            intro next nextEvent fewer
            exact inductionHypothesis (by omega) (by omega) nextEvent
          have calls := callHandler_congr agree onward behaviour event
          exact publishWith_congr calls (onward_callHandler onward behaviour event)
            (Nat.le_refl _) event

/-- How a handler is called with an event: what it publishes is published. -/
def calling (behaviour : Behaviour) (event : BusEvent) : Caller :=
  callHandler behaviour (publish behaviour) event

/-- Publishing is one delivery, in which handlers publish in the same way. -/
theorem publish_eq (behaviour : Behaviour) (bus : EventBus) (event : BusEvent) :
    publish behaviour bus event = publishWith (calling behaviour event) bus event := by
  have onward := onward_publishWithin behaviour bus.allowance
  have agree : Publisher.AgreeBelow bus.allowance (publishWithin behaviour bus.allowance)
      (publish behaviour) := by
    intro next nextEvent fewer
    exact publishWithin_eq behaviour fewer (Nat.lt_succ_self _) nextEvent
  have calls := callHandler_congr agree onward behaviour event
  exact publishWith_congr calls (onward_callHandler onward behaviour event) (Nat.le_refl _) event

end EventBus

end QuoteDesk
