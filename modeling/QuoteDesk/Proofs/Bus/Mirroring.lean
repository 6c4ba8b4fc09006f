import QuoteDesk.Proofs.Bus.Weeding

/-!
# A bus that forgets at once

The bus keeps the registrations of a dead handler until the next event of their kind.
A plain bus takes them away when the handler dies and knows nothing of places, holding
or pruning.  As long as handlers do not act on the bus, no sequence of calls tells the
two apart by what is delivered: the living registrations are those of the plain bus.
-/

namespace QuoteDesk

/-! ## Calls -/

/-- What is done with a bus from outside. -/
inductive BusCall where
  | subscribe (kind name : String)
  | unsubscribe (kind name : String)
  | publish (event : BusEvent)
  | clear
  /-- The owner lets go of a handler; one that is held weakly dies of it. -/
  | release (name : String)

def BusCall.action (book : HandlerBook) : BusCall → BusAction
  | .subscribe kind name => .subscribe kind (book.handler name)
  | .unsubscribe kind name => .unsubscribe kind (book.handler name)
  | .publish event => .publish event
  | .clear => .clear
  | .release name => .release (book.handler name)

/-! ## The plain bus -/

/-- A bus that holds the names registered for each kind of event and delivers to all of
them.  Nobody calls it with a handler that was let go. -/
structure PlainBus where
  registered : String → List String
  released : List String
  delivered : List (String × BusEvent)

namespace PlainBus

def empty : PlainBus := ⟨fun _ => [], [], []⟩

/-- Replaces the registrations for one kind of event. -/
def change (bus : PlainBus) (kind : String) (names : List String) : PlainBus :=
  { bus with registered := fun other => if other = kind then names else bus.registered other }

def perform (book : HandlerBook) (bus : PlainBus) : BusCall → PlainBus
  | .subscribe kind name =>
      if bus.released.contains name then bus
      else bus.change kind (bus.registered kind ++ [name])
  | .unsubscribe kind name =>
      if bus.released.contains name then bus
      else bus.change kind ((bus.registered kind).erase name)
  | .publish event =>
      { bus with
        delivered := bus.delivered ++ (bus.registered event.kind).map fun name => (name, event) }
  | .clear => { bus with registered := fun _ => [] }
  | .release name =>
      { bus with
        registered := fun kind =>
          if book.weak name then (bus.registered kind).filter (· ≠ name)
          else bus.registered kind
        released := name :: bus.released }

end PlainBus

namespace EventBus

/-! ## The bus and the plain bus, side by side -/

/-- A bus between two calls: its living registrations are those of a plain bus. -/
structure Mirrors (book : HandlerBook) (bus : EventBus) (plain : PlainBus) : Prop where
  tidy : bus.Tidy
  unheld : bus.held = []
  released : bus.released = plain.released
  known : ∀ kind, ∀ handler ∈ bus.handlersOf kind, book.Knows handler
  living : ∀ kind,
    (bus.handlersOf kind).filter bus.isAlive = (plain.registered kind).map book.handler
  delivered : bus.delivered = plain.delivered

section Mirroring

variable {book : HandlerBook} {bus : EventBus} {plain : PlainBus}

theorem isAlive_congr
    {after : EventBus} (released : after.released = bus.released) (held : after.held = bus.held) :
    after.isAlive = bus.isAlive := by
  funext handler
  rw [isAlive, released, held, isAlive]

theorem isAlive_of_not_released
    {handler : Handler} (unreleased : bus.released.contains handler.name = false) :
    bus.isAlive handler = true := by
  rw [isAlive, unreleased, Bool.not_false, Bool.or_true, Bool.true_or]

theorem mirrors_empty (book : HandlerBook) (allowance : Nat) :
    Mirrors book (empty allowance) .empty :=
  { tidy := tidy_empty allowance
    unheld := rfl
    released := rfl
    known := nofun
    living := fun _ => rfl
    delivered := rfl }

/-- From one bus to another, nothing but registrations has changed. -/
structure OnlyRegisters (bus after : EventBus) : Prop where
  released : after.released = bus.released
  held : after.held = bus.held
  delivered : after.delivered = bus.delivered

theorem onlyRegisters_subscribe (bus : EventBus) (kind : String) (handler : Handler) :
    OnlyRegisters bus (bus.subscribe kind handler) := by
  unfold subscribe
  cases bus.number? kind with
  | none => exact ⟨rfl, rfl, rfl⟩
  | some number => exact ⟨rfl, rfl, rfl⟩

theorem onlyRegisters_unsubscribe (bus : EventBus) (kind : String) (handler : Handler) :
    OnlyRegisters bus (bus.unsubscribe kind handler) := by
  unfold unsubscribe
  cases bus.number? kind with
  | none => exact ⟨rfl, rfl, rfl⟩
  | some number =>
      dsimp only
      split
      · exact ⟨rfl, rfl, rfl⟩
      · exact ⟨rfl, rfl, rfl⟩

/-- The registrations for one kind of event are replaced on both. -/
theorem Mirrors.change
    (mirrors : Mirrors book bus plain) {after : EventBus} (only : OnlyRegisters bus after)
    (tidy : after.Tidy) {kind : String} {entries : List Handler} {names : List String}
    (replaced : ∀ other,
      after.handlersOf other = if other = kind then entries else bus.handlersOf other)
    (known : ∀ handler ∈ entries, book.Knows handler)
    (living : entries.filter bus.isAlive = names.map book.handler) :
    Mirrors book after (plain.change kind names) := by
  refine
    { tidy := tidy
      unheld := only.held.trans mirrors.unheld
      released := only.released.trans mirrors.released
      known := fun other handler member => ?_
      living := fun other => ?_
      delivered := only.delivered.trans mirrors.delivered }
  · rw [replaced] at member
    split at member
    · exact known handler member
    · exact mirrors.known other handler member
  · rw [replaced, isAlive_congr only.released only.held, PlainBus.change]
    dsimp only
    split
    · exact living
    · exact mirrors.living other

theorem Mirrors.subscribe
    (mirrors : Mirrors book bus plain) (kind : String) {name : String}
    (unreleased : bus.released.contains name = false) :
    Mirrors book (bus.subscribe kind (book.handler name))
      (plain.change kind (plain.registered kind ++ [name])) := by
  have alive : bus.isAlive (book.handler name) = true := isAlive_of_not_released unreleased
  refine mirrors.change (onlyRegisters_subscribe bus kind _) (mirrors.tidy.subscribe kind _)
    (mirrors.tidy.handlersOf_subscribe kind _) (fun handler member => ?_) ?_
  · rcases List.mem_append.mp member with earlier | new
    · exact mirrors.known kind handler earlier
    · rw [List.mem_singleton.mp new]
      rfl
  · rw [List.filter_append, mirrors.living, List.map_append, List.filter_cons_of_pos alive]
    rfl

theorem Mirrors.unsubscribe
    (mirrors : Mirrors book bus plain) (kind : String) {name : String}
    (unreleased : bus.released.contains name = false) :
    Mirrors book (bus.unsubscribe kind (book.handler name))
      (plain.change kind ((plain.registered kind).erase name)) := by
  have alive : bus.isAlive (book.handler name) = true := isAlive_of_not_released unreleased
  refine mirrors.change (onlyRegisters_unsubscribe bus kind _) (mirrors.tidy.unsubscribe kind _)
    (mirrors.tidy.handlersOf_unsubscribe alive kind) (fun handler member => ?_) ?_
  · exact mirrors.known kind handler (List.mem_of_mem_eraseP member)
  · -- Dead registrations in front are passed over: they go by other names.
    have passed : (fun entry : Handler => decide (entry.name = name) && bus.isAlive entry) =
        fun entry => decide (entry.name = name) := by
      funext entry
      by_cases named : entry.name = name
      · rw [isAlive_of_not_released (named ▸ unreleased), Bool.and_true]
      · rw [decide_eq_false named, Bool.false_and]
    calc ((bus.handlersOf kind).eraseP fun entry => entry.name = name).filter bus.isAlive
        = ((bus.handlersOf kind).filter bus.isAlive).eraseP fun entry => entry.name = name := by
          rw [List.eraseP_filter, passed]
      _ = ((plain.registered kind).eraseP fun other => other = name).map book.handler := by
          rw [mirrors.living, List.eraseP_map]
          rfl
      _ = ((plain.registered kind).erase name).map book.handler := by
          rw [List.erase_eq_eraseP']
          rfl

theorem Mirrors.clear (mirrors : Mirrors book bus plain) :
    Mirrors book bus.clear (plain.perform book .clear) :=
  { tidy := ⟨nofun, nofun⟩
    unheld := mirrors.unheld
    released := mirrors.released
    known := nofun
    living := fun _ => rfl
    delivered := mirrors.delivered }

theorem isAlive_release (unheld : bus.held = []) (name : String) (handler : Handler) :
    isAlive { bus with released := name :: bus.released } handler =
      (!(handler.weak && handler.name = name) && bus.isAlive handler) := by
  unfold isAlive
  rw [unheld, List.contains_cons, List.contains_nil, Bool.or_false, Bool.or_false]
  cases handler.weak with
  | false => rfl
  | true =>
      by_cases named : handler.name = name
      · simp [named]
      · simp [named]

/-- A death takes the registrations of the handler out of the living ones. -/
theorem Mirrors.release (mirrors : Mirrors book bus plain) (name : String) :
    Mirrors book { bus with released := name :: bus.released }
      (plain.perform book (.release name)) := by
  refine
    { tidy := mirrors.tidy.of_attached rfl rfl
      unheld := mirrors.unheld
      released := congrArg (name :: ·) mirrors.released
      known := mirrors.known
      living := fun kind => ?_
      delivered := mirrors.delivered }
  calc (bus.handlersOf kind).filter (isAlive { bus with released := name :: bus.released })
      = ((bus.handlersOf kind).filter bus.isAlive).filter
          (fun handler => !(handler.weak && handler.name = name)) := by
        rw [List.filter_filter]
        exact List.filter_congr fun handler _ => isAlive_release mirrors.unheld name handler
    _ = ((plain.registered kind).filter
          (fun other => !(book.weak other && other = name))).map book.handler := by
        rw [mirrors.living, List.filter_map]
        rfl
    _ = ((plain.perform book (.release name)).registered kind).map book.handler := by
        refine congrArg (List.map book.handler) ?_
        dsimp only [PlainBus.perform]
        split
        · rename_i weak
          refine List.filter_congr fun other _ => ?_
          by_cases named : other = name
          · simp [named, weak]
          · simp [named]
        · rename_i strong
          refine List.filter_eq_self.mpr fun other _ => ?_
          by_cases named : other = name
          · simp [named, strong]
          · simp [named]

/-- A publish keeps the bus and the plain one alike. -/
theorem Mirrors.publish
    (mirrors : Mirrors book bus plain)
    (faults : EventBus → Handler → BusEvent → Option Fault) (event : BusEvent) :
    Mirrors book (publish (.raising faults) bus event).2 (plain.perform book (.publish event)) := by
  have weeds : Weeds bus event (EventBus.publish (.raising faults) bus event) :=
    publish_raising mirrors.tidy mirrors.unheld (mirrors.known event.kind)
  have alive := isAlive_congr weeds.released (weeds.unheld.trans mirrors.unheld.symm)
  refine
    { tidy := weeds.tidy
      unheld := weeds.unheld
      released := weeds.released.trans mirrors.released
      known := fun kind handler member => ?_
      living := fun kind => ?_
      delivered := ?_ }
  · rw [weeds.registered] at member
    split at member
    · exact mirrors.known kind handler (List.mem_of_mem_filter member)
    · exact mirrors.known kind handler member
  · rw [weeds.registered, alive]
    split
    · rw [List.filter_filter]
      simp only [Bool.and_self]
      exact mirrors.living kind
    · exact mirrors.living kind
  · rw [weeds.delivered, mirrors.living, mirrors.delivered, List.map_map]
    rfl

/-- A call has the same effect on both, and on the bus it raises nothing. -/
theorem Mirrors.perform
    (mirrors : Mirrors book bus plain)
    (faults : EventBus → Handler → BusEvent → Option Fault) (call : BusCall) :
    Mirrors book (act (.raising faults) bus (call.action book)).2 (plain.perform book call) := by
  cases call with
  | subscribe kind name =>
      simp only [BusCall.action, act, EventBus.perform, PlainBus.perform, HandlerBook.handler,
        ← mirrors.released]
      split
      · exact mirrors
      · exact mirrors.subscribe kind (eq_false_of_ne_true ‹_›)
  | unsubscribe kind name =>
      simp only [BusCall.action, act, EventBus.perform, PlainBus.perform, HandlerBook.handler,
        ← mirrors.released]
      split
      · exact mirrors
      · exact mirrors.unsubscribe kind (eq_false_of_ne_true ‹_›)
  | publish event => exact mirrors.publish faults event
  | clear => exact mirrors.clear
  | release name => exact mirrors.release name

/-- The bus when some calls were made, one after the other. -/
def afterCalls (book : HandlerBook) (behaviour : Behaviour) (bus : EventBus)
    (calls : List BusCall) : EventBus :=
  afterActions behaviour bus (calls.map (BusCall.action book))

/-- Calls from outside keep the bus and the plain one alike. -/
theorem Mirrors.run
    (mirrors : Mirrors book bus plain)
    (faults : EventBus → Handler → BusEvent → Option Fault) (calls : List BusCall) :
    Mirrors book (afterCalls book (.raising faults) bus calls)
      (calls.foldl (PlainBus.perform book) plain) := by
  induction calls generalizing bus plain with
  | nil => exact mirrors
  | cons call rest inductionHypothesis => exact inductionHypothesis (mirrors.perform faults call)

/-- Right after an event, no dead registration is left for its kind. -/
theorem Mirrors.handlersOf_publish
    (mirrors : Mirrors book bus plain)
    (faults : EventBus → Handler → BusEvent → Option Fault) (event : BusEvent) :
    (EventBus.publish (.raising faults) bus event).2.handlersOf event.kind =
      ((plain.perform book (.publish event)).registered event.kind).map book.handler := by
  have weeds : Weeds bus event (EventBus.publish (.raising faults) bus event) :=
    publish_raising mirrors.tidy mirrors.unheld (mirrors.known event.kind)
  rw [weeds.registered, if_pos rfl]
  exact mirrors.living event.kind

end Mirroring

/-- Whatever calls are made, as long as handlers do not act on the bus: what is delivered
is what a bus delivers that forgets the dead at once.  Publishing raises nothing, and
right after it as many registrations are left for that kind of event as on that bus. -/
theorem run_delivers_as_plain
    (book : HandlerBook) (faults : EventBus → Handler → BusEvent → Option Fault)
    (allowance : Nat) (calls : List BusCall) :
    let bus := afterCalls book (.raising faults) (empty allowance) calls
    let plain := calls.foldl (PlainBus.perform book) .empty
    bus.delivered = plain.delivered ∧
      ∀ event,
        let published := act (.raising faults) bus (.publish event)
        published.1 = none ∧
          (published.2.handlersOf event.kind).length =
            ((plain.perform book (.publish event)).registered event.kind).length := by
  intro bus plain
  have mirrors : Mirrors book bus plain := (mirrors_empty book allowance).run faults calls
  refine ⟨mirrors.delivered, fun event => ⟨?_, ?_⟩⟩
  · exact (publish_raising mirrors.tidy mirrors.unheld (mirrors.known event.kind)).quiet
  · have left := mirrors.handlersOf_publish faults event
    exact (congrArg List.length left).trans (List.length_map _)

/-- Between two events of a kind the numbers differ: the dead are still counted. -/
example :
    let book : HandlerBook := ⟨id, fun name => name = "observer"⟩
    let calls : List BusCall := [.subscribe "BomReady" "observer", .release "observer"]
    ((afterCalls book (.raising fun _ _ _ => none) (empty 9) calls).handlersOf "BomReady").length =
        1 ∧
      ((calls.foldl (PlainBus.perform book) .empty).registered "BomReady").length = 0 := by
  decide +kernel

end EventBus

end QuoteDesk
