import QuoteDesk.Proofs.Bus.Pruning

/-!
# Deliveries that only weed

When handlers do not act on the bus, the roster at the end of a delivery is the one that
there was at its start, and whoever was alive then is so at his turn.  So the delivery
reaches exactly the living, and the pruning takes exactly the dead.
-/

namespace QuoteDesk

/-! ## Handlers that leave the bus alone -/

/-- Everyone who may be registered: a name stands for one handler. -/
structure HandlerBook where
  label : String → String
  weak : String → Bool

namespace HandlerBook

def handler (book : HandlerBook) (name : String) : Handler :=
  ⟨name, book.label name, book.weak name⟩

/-- The handler is the one that its name stands for. -/
def Knows (book : HandlerBook) (handler : Handler) : Prop :=
  handler = book.handler handler.name

end HandlerBook

/-- Handlers that raise or do nothing, and leave the bus alone. -/
def Behaviour.raising (faults : EventBus → Handler → BusEvent → Option Fault) : Behaviour :=
  fun bus handler event => (faults bus handler event).toList.map .raise

namespace EventBus

/-! ## Rosters -/

/-- Every kind of event has a roster of its own. -/
structure Tidy (bus : EventBus) : Prop where
  there : ∀ {kind number}, bus.number? kind = some number → number < bus.rosters.length
  apart : ∀ {kind other number},
    bus.number? kind = some number → bus.number? other = some number → kind = other

section Rosters

variable {bus : EventBus}

theorem tidy_empty (allowance : Nat) : (empty allowance).Tidy :=
  ⟨nofun, nofun⟩

theorem Tidy.of_attached
    {after : EventBus} (tidy : bus.Tidy) (attached : after.attached = bus.attached)
    (size : after.rosters.length = bus.rosters.length) : after.Tidy := by
  have numbers : after.number? = bus.number? := by
    funext kind
    rw [number?, attached, number?]
  refine ⟨?_, ?_⟩
  · rw [numbers, size]
    exact tidy.there
  · rw [numbers]
    exact tidy.apart

theorem Tidy.setRoster (tidy : bus.Tidy) (number : Nat) (handlers : List Handler) :
    (bus.setRoster number handlers).Tidy :=
  tidy.of_attached rfl (List.length_set ..)

/-- What is registered when the roster of a kind is replaced. -/
theorem Tidy.handlersOf_setRoster
    (tidy : bus.Tidy) {kind : String} {number : Nat} (known : bus.number? kind = some number)
    (handlers : List Handler) (other : String) :
    (bus.setRoster number handlers).handlersOf other =
      if other = kind then handlers else bus.handlersOf other := by
  have unmoved : (bus.setRoster number handlers).number? other = bus.number? other := rfl
  rw [handlersOf, unmoved]
  by_cases same : other = kind
  · rw [if_pos same, same, known]
    exact roster_setRoster (tidy.there known) handlers
  · rw [if_neg same, handlersOf]
    cases found : bus.number? other with
    | none => rfl
    | some otherNumber =>
        have different : number ≠ otherNumber := by
          rintro rfl
          exact same (tidy.apart found known)
        exact roster_setRoster_of_ne different handlers

/-- A kind that comes for the first time gets a roster behind all others. -/
def attach (bus : EventBus) (kind : String) (handlers : List Handler) : EventBus :=
  { bus with
    rosters := bus.rosters ++ [handlers]
    attached := bus.attached ++ [(kind, bus.rosters.length)] }

theorem number?_attach
    {kind : String} (unknown : bus.number? kind = none) (handlers : List Handler)
    (other : String) :
    (bus.attach kind handlers).number? other =
      if other = kind then some bus.rosters.length else bus.number? other := by
  unfold number? attach at *
  rw [List.lookup_append, List.lookup_cons, List.lookup_nil]
  by_cases same : other = kind
  · rw [if_pos same, same, unknown, beq_self_eq_true]
    rfl
  · rw [if_neg same, beq_false_of_ne same]
    exact Option.or_none

theorem Tidy.attach
    (tidy : bus.Tidy) {kind : String} (unknown : bus.number? kind = none)
    (handlers : List Handler) : (bus.attach kind handlers).Tidy := by
  have longer : (bus.attach kind handlers).rosters.length = bus.rosters.length + 1 :=
    List.length_append
  constructor
  · intro other number known
    rw [number?_attach unknown] at known
    rw [longer]
    split at known
    · cases known
      exact Nat.lt_succ_self _
    · exact Nat.lt_succ_of_lt (tidy.there known)
  · intro one other number oneKnown otherKnown
    rw [number?_attach unknown] at oneKnown otherKnown
    split at oneKnown <;> split at otherKnown
    · exact ‹one = kind›.trans (Eq.symm ‹other = kind›)
    · cases oneKnown
      exact absurd (tidy.there otherKnown) (Nat.lt_irrefl _)
    · cases otherKnown
      exact absurd (tidy.there oneKnown) (Nat.lt_irrefl _)
    · exact tidy.apart oneKnown otherKnown

theorem Tidy.handlersOf_attach
    (tidy : bus.Tidy) {kind : String} (unknown : bus.number? kind = none)
    (handlers : List Handler) (other : String) :
    (bus.attach kind handlers).handlersOf other =
      if other = kind then handlers else bus.handlersOf other := by
  rw [handlersOf, number?_attach unknown]
  have added : (bus.attach kind handlers).rosters = bus.rosters ++ [handlers] := rfl
  by_cases same : other = kind
  · rw [if_pos same, if_pos same, Option.map_some, roster, added,
      List.getD_eq_getElem?_getD, List.getElem?_concat_length]
    rfl
  · rw [if_neg same, if_neg same, handlersOf]
    cases found : bus.number? other with
    | none => rfl
    | some number =>
        have within := tidy.there found
        rw [Option.map_some, Option.map_some, roster, added, roster,
          List.getD_eq_getElem?_getD, List.getD_eq_getElem?_getD,
          List.getElem?_append_left within]

/-- What is registered after a subscription. -/
theorem Tidy.handlersOf_subscribe
    (tidy : bus.Tidy) (kind : String) (handler : Handler) (other : String) :
    (bus.subscribe kind handler).handlersOf other =
      if other = kind then bus.handlersOf kind ++ [handler] else bus.handlersOf other := by
  cases known : bus.number? kind with
  | none =>
      rw [handlersOf_of_unknown known, List.nil_append, ← tidy.handlersOf_attach known]
      unfold subscribe
      rw [known]
      rfl
  | some number =>
      rw [handlersOf_of_number? known, ← tidy.handlersOf_setRoster known]
      unfold subscribe
      rw [known]
      rfl

theorem Tidy.subscribe (tidy : bus.Tidy) (kind : String) (handler : Handler) :
    (bus.subscribe kind handler).Tidy := by
  cases known : bus.number? kind with
  | none =>
      unfold EventBus.subscribe
      rw [known]
      exact (tidy.attach known [handler]).of_attached rfl rfl
  | some number =>
      unfold EventBus.subscribe
      rw [known]
      exact (tidy.setRoster number (bus.roster number ++ [handler])).of_attached rfl rfl

/-- What is registered after a living handler is taken away once. -/
theorem Tidy.handlersOf_unsubscribe
    (tidy : bus.Tidy) {handler : Handler} (alive : bus.isAlive handler = true)
    (kind other : String) :
    (bus.unsubscribe kind handler).handlersOf other =
      if other = kind then
        (bus.handlersOf kind).eraseP fun entry => entry.name = handler.name
      else bus.handlersOf other := by
  unfold unsubscribe
  cases known : bus.number? kind with
  | none =>
      dsimp only
      by_cases same : other = kind
      · rw [if_pos same, same, handlersOf_of_unknown known]
        rfl
      · rw [if_neg same]
  | some number =>
      dsimp only
      rw [if_pos alive, handlersOf_of_number? known]
      exact tidy.handlersOf_setRoster known _ other

theorem Tidy.unsubscribe (tidy : bus.Tidy) (kind : String) (handler : Handler) :
    (bus.unsubscribe kind handler).Tidy := by
  unfold EventBus.unsubscribe
  cases bus.number? kind with
  | none => exact tidy
  | some number =>
      dsimp only
      split
      · exact tidy.setRoster number _
      · exact tidy

end Rosters

/-! ## Turns of handlers that leave the bus alone -/

/-- The registrations and the deaths are the same. -/
structure SameRoll (bus after : EventBus) : Prop where
  rosters : after.rosters = bus.rosters
  attached : after.attached = bus.attached
  released : after.released = bus.released

section SameRoll

variable {bus after : EventBus}

theorem SameRoll.roster_eq (same : SameRoll bus after) (number : Nat) :
    after.roster number = bus.roster number := by
  rw [roster, same.rosters, roster]

theorem SameRoll.number?_eq (same : SameRoll bus after) (kind : String) :
    after.number? kind = bus.number? kind := by
  rw [number?, same.attached, number?]

theorem SameRoll.handlersOf_eq (same : SameRoll bus after) (kind : String) :
    after.handlersOf kind = bus.handlersOf kind := by
  rw [handlersOf, same.number?_eq, handlersOf]
  cases bus.number? kind with
  | none => rfl
  | some number => exact same.roster_eq number

end SameRoll

section Raising

variable (faults : EventBus → Handler → BusEvent → Option Fault) (event : BusEvent)

theorem exists_allowance_raise (publish : Publisher) (bus : EventBus) (fault : Option Fault) :
    ∃ allowance, (performAll publish bus (fault.toList.map .raise)).2 =
      { bus with allowance := allowance } := by
  cases fault with
  | none => exact ⟨bus.allowance, rfl⟩
  | some fault =>
      have acts : (some fault).toList.map BusAction.raise = [.raise fault] := rfl
      rw [acts, performAll_cons]
      split
      · exact ⟨bus.allowance, rfl⟩
      · exact ⟨bus.allowance - 1, rfl⟩

theorem exists_allowance_calling (bus : EventBus) (handler : Handler) :
    ∃ allowance, (calling (.raising faults) event bus handler).2 =
      { bus.telling handler event with allowance := allowance } :=
  exists_allowance_raise _ (bus.telling handler event) (faults bus handler event)

theorem echoes_raising (turn : BusTurn) : turn.echoes (.raising faults) event = [] := by
  let told := turn.begun.telling turn.handler event
  obtain ⟨allowance, left⟩ := exists_allowance_raise (publish (.raising faults)) told
    (faults turn.begun turn.handler event)
  have kept := congrArg EventBus.delivered left
  exact (congrArg (List.drop told.delivered.length) kept).trans (List.drop_length ..)

/-- In the middle of a delivery: nothing is held but the handler called last, which was
alive when the delivery started, and neither registrations nor deaths have changed. -/
structure Amid (book : HandlerBook) (bus : EventBus) (left : Option Handler × EventBus) :
    Prop where
  roll : SameRoll bus left.2
  held : left.2.held = (left.1.map Handler.name).toList
  living : ∀ handler ∈ left.1, book.Knows handler ∧ bus.isAlive handler = true

variable {faults event} {book : HandlerBook} {bus : EventBus}

/-- Whoever is alive in the middle of a delivery was so at its start. -/
theorem Amid.isAlive_eq
    {left : Option Handler × EventBus} (amid : Amid book bus left) (unheld : bus.held = [])
    {handler : Handler} (known : book.Knows handler) :
    left.2.isAlive handler = bus.isAlive handler := by
  have released := amid.roll.released
  have held := amid.held
  cases last : left.1 with
  | none =>
      rw [last] at held
      unfold isAlive
      rw [released, held, unheld]
      rfl
  | some holder =>
      rw [last] at held
      obtain ⟨holderKnown, holderAlive⟩ := amid.living holder last
      by_cases same : holder.name = handler.name
      · have equal : holder = handler := by
          rw [holderKnown, same, ← known]
        rw [← equal, holderAlive, isAlive, held]
        simp
      · unfold isAlive
        rw [released, held, unheld]
        simp [Ne.symm same]

theorem begun_of_amid
    {turn : BusTurn} (amid : Amid book bus (turn.holding, turn.bus)) :
    SameRoll bus turn.begun ∧ turn.begun.held = [turn.handler.name] := by
  have held : turn.bus.held = (turn.holding.map Handler.name).toList := amid.held
  unfold BusTurn.begun
  cases holding : turn.holding with
  | none =>
      rw [holding] at held
      refine ⟨⟨amid.roll.rosters, amid.roll.attached, amid.roll.released⟩, ?_⟩
      exact congrArg (turn.handler.name :: ·) held
  | some holder =>
      rw [holding] at held
      refine ⟨⟨amid.roll.rosters, amid.roll.attached, amid.roll.released⟩, ?_⟩
      have both : (turn.bus.hold turn.handler).held = [turn.handler.name, holder.name] :=
        congrArg (turn.handler.name :: ·) held
      change (turn.bus.hold turn.handler).held.erase holder.name = [turn.handler.name]
      rw [both, List.erase_cons]
      by_cases same : turn.handler.name = holder.name
      · simp [same]
      · simp [same]

/-- What a turn leaves is again in the middle of the delivery. -/
theorem Amid.leaves
    {turn : BusTurn} (amid : Amid book bus (turn.holding, turn.bus)) (unheld : bus.held = [])
    (known : book.Knows turn.handler) :
    Amid book bus (turn.leaves (calling (.raising faults) event) event) := by
  have asBefore : turn.isAlive = bus.isAlive turn.handler := amid.isAlive_eq unheld known
  obtain ⟨roll, held⟩ := begun_of_amid amid
  unfold BusTurn.leaves
  by_cases alive : turn.isAlive = true
  · rw [if_pos alive]
    obtain ⟨allowance, called⟩ := exists_allowance_calling faults event turn.begun turn.handler
    have noted : ∃ log, turn.noting event
        (calling (.raising faults) event turn.begun turn.handler) =
          { turn.begun.telling turn.handler event with allowance := allowance, log := log } := by
      unfold BusTurn.noting
      rw [called]
      split
      · exact ⟨_, rfl⟩
      · exact ⟨_, rfl⟩
    obtain ⟨log, noted⟩ := noted
    rw [noted]
    refine ⟨⟨roll.rosters, roll.attached, roll.released⟩, held, ?_⟩
    rintro _ ⟨⟩
    exact ⟨known, asBefore.symm.trans alive⟩
  · rw [if_neg alive]
    have bare : (turn.bus.letGo turn.holding).held = [] := by
      have held : turn.bus.held = (turn.holding.map Handler.name).toList := amid.held
      cases holding : turn.holding with
      | none =>
          rw [holding] at held
          exact held
      | some holder =>
          rw [holding] at held
          change turn.bus.held.erase holder.name = []
          rw [held]
          exact List.erase_cons_head ..
    refine ⟨?_, bare, nofun⟩
    cases turn.holding with
    | none => exact amid.roll
    | some holder => exact ⟨amid.roll.rosters, amid.roll.attached, amid.roll.released⟩

theorem amid_start (unheld : bus.held = []) :
    Amid book bus (none, bus.announcing event) :=
  ⟨⟨rfl, rfl, rfl⟩, unheld, nofun⟩

theorem amid_turns
    (unheld : bus.held = []) {start : Option Handler × EventBus} (amid : Amid book bus start)
    {handlers : List Handler} (known : ∀ handler ∈ handlers, book.Knows handler) :
    (∀ turn ∈ turns (calling (.raising faults) event) event start handlers,
        turn.isAlive = bus.isAlive turn.handler) ∧
      Amid book bus (afterTurns (calling (.raising faults) event) event start handlers) := by
  induction handlers generalizing start with
  | nil => exact ⟨List.forall_mem_nil _, amid⟩
  | cons handler rest inductionHypothesis =>
      obtain ⟨handlerKnown, restKnown⟩ := List.forall_mem_cons.mp known
      let turn : BusTurn := ⟨handler, start.1, start.2⟩
      have here : Amid book bus (turn.holding, turn.bus) := amid
      have next : Amid book bus (turn.leaves (calling (.raising faults) event) event) :=
        here.leaves unheld handlerKnown
      obtain ⟨restAlive, after⟩ := inductionHypothesis next restKnown
      refine ⟨?_, after⟩
      rw [turns_cons, List.forall_mem_cons]
      exact ⟨here.isAlive_eq unheld handlerKnown, restAlive⟩

end Raising

/-! ## Taking all dead registrations away -/

section Places

variable {α : Type}

theorem foldl_eraseIdx_succ (entry : α) (rest : List α) (places : List Nat) :
    (places.map (· + 1)).foldl List.eraseIdx (entry :: rest) =
      entry :: places.foldl List.eraseIdx rest := by
  induction places generalizing rest with
  | nil => rfl
  | cons place more inductionHypothesis =>
      rw [List.map_cons, List.foldl_cons, List.eraseIdx_cons_succ, inductionHypothesis,
        List.foldl_cons]

/-- Erasing the places of some entries from the last one on leaves the others. -/
theorem foldl_eraseIdx_findIdxs (drop : α → Bool) (entries : List α) :
    (entries.findIdxs drop).reverse.foldl List.eraseIdx entries =
      entries.filter fun entry => !drop entry := by
  induction entries with
  | nil => rfl
  | cons entry rest inductionHypothesis =>
      have later : (rest.findIdxs drop 1).reverse = (rest.findIdxs drop).reverse.map (· + 1) := by
        rw [List.findIdxs_start, List.map_reverse]
      rw [List.findIdxs_cons, List.filter_cons]
      by_cases dropped : drop entry = true
      · rw [if_pos dropped, List.reverse_cons, List.foldl_append, later, foldl_eraseIdx_succ,
          inductionHypothesis, if_neg (by simp [dropped])]
        rfl
      · rw [if_neg dropped, later, foldl_eraseIdx_succ, inductionHypothesis,
          if_pos (by simp [dropped])]

end Places

/-- Pruning changes nothing but the rosters. -/
theorem exists_rosters_prune (bus : EventBus) (number : Nat) (places : List Nat) :
    ∃ rosters, rosters.length = bus.rosters.length ∧
      (bus.prune number places).2 = { bus with rosters := rosters } := by
  induction places generalizing bus with
  | nil => exact ⟨bus.rosters, rfl, rfl⟩
  | cons place rest inductionHypothesis =>
      unfold prune
      split
      · obtain ⟨rosters, size, same⟩ :=
          inductionHypothesis (bus.setRoster number ((bus.roster number).eraseIdx place))
        exact ⟨rosters, size.trans (List.length_set ..), same⟩
      · exact ⟨bus.rosters, rfl, rfl⟩

/-- What a delivery does to a bus when its handlers leave it alone: it reaches the
living, and then no dead registration is left for its kind. -/
structure Weeds (bus : EventBus) (event : BusEvent) (result : Option Fault × EventBus) :
    Prop where
  quiet : result.1 = none
  tidy : result.2.Tidy
  unheld : result.2.held = []
  released : result.2.released = bus.released
  delivered : result.2.delivered = bus.delivered ++
    ((bus.handlersOf event.kind).filter bus.isAlive).map fun handler => (handler.name, event)
  registered : ∀ kind, result.2.handlersOf kind =
    if kind = event.kind then (bus.handlersOf kind).filter bus.isAlive else bus.handlersOf kind

section Weeding

variable {faults : EventBus → Handler → BusEvent → Option Fault} {event : BusEvent}
  {book : HandlerBook} {bus : EventBus}

variable (faults) in
theorem turnsOf_raising
    (unheld : bus.held = []) (known : ∀ handler ∈ bus.handlersOf event.kind, book.Knows handler) :
    (∀ turn ∈ turnsOf (.raising faults) bus event, turn.isAlive = bus.isAlive turn.handler) ∧
      Amid book bus (served (.raising faults) bus event) :=
  amid_turns unheld (amid_start unheld) known

variable (faults) in
theorem deadPlaces_raising
    (unheld : bus.held = []) (known : ∀ handler ∈ bus.handlersOf event.kind, book.Knows handler) :
    deadPlaces (turnsOf (.raising faults) bus event) =
      (bus.handlersOf event.kind).findIdxs fun handler => !bus.isAlive handler := by
  obtain ⟨alive, -⟩ := turnsOf_raising faults unheld known
  have handlers : (turnsOf (.raising faults) bus event).map BusTurn.handler =
      bus.handlersOf event.kind := map_handler_turns _ _
  rw [← handlers, List.findIdxs_map, deadPlaces, List.findIdxs_eq_filterMap_zipIdx,
    List.findIdxs_eq_filterMap_zipIdx]
  refine List.filterMap_congr fun entry member => ?_
  have here := List.fst_mem_of_mem_zipIdx member
  rw [Function.comp_apply, alive entry.1 here]

theorem deliveries_raising
    (unheld : bus.held = []) (known : ∀ handler ∈ bus.handlersOf event.kind, book.Knows handler) :
    (turnsOf (.raising faults) bus event).flatMap (BusTurn.deliveries (.raising faults) event) =
      ((bus.handlersOf event.kind).filter bus.isAlive).map fun handler =>
        (handler.name, event) := by
  obtain ⟨alive, -⟩ := turnsOf_raising faults unheld known
  have handlers : (turnsOf (.raising faults) bus event).map BusTurn.handler =
      bus.handlersOf event.kind := map_handler_turns _ _
  rw [← handlers]
  clear handlers
  generalize turnsOf (.raising faults) bus event = turns at alive ⊢
  induction turns with
  | nil => rfl
  | cons turn rest inductionHypothesis =>
      obtain ⟨turnAlive, restAlive⟩ := List.forall_mem_cons.mp alive
      rw [List.flatMap_cons, inductionHypothesis restAlive, BusTurn.deliveries, echoes_raising,
        List.map_cons, List.filter_cons, ← turnAlive]
      by_cases living : turn.isAlive = true
      · rw [if_pos living, if_pos living]
        rfl
      · rw [if_neg living, if_neg living]
        rfl

variable (faults) in
/-- Pruning the places of the dead registrations, which are still there when the turns
are over. -/
theorem prune_raising
    (tidy : bus.Tidy) (unheld : bus.held = [])
    (known : ∀ handler ∈ bus.handlersOf event.kind, book.Knows handler)
    {number : Nat} (found : bus.number? event.kind = some number) :
    let left := (served (.raising faults) bus event).2
    let pruned := left.prune number (deadPlaces (turnsOf (.raising faults) bus event)).reverse
    pruned.1 = none ∧
      ∀ kind, pruned.2.handlersOf kind =
        if kind = event.kind then (bus.handlersOf kind).filter bus.isAlive
        else bus.handlersOf kind := by
  intro left pruned
  obtain ⟨-, amid⟩ := turnsOf_raising faults unheld known
  have entries : left.roster number = bus.handlersOf event.kind :=
    (amid.roll.roster_eq number).trans (handlersOf_of_number? found).symm
  have places := deadPlaces_raising faults unheld known
  have within : ∀ place ∈ (deadPlaces (turnsOf (.raising faults) bus event)).reverse,
      place < (left.roster number).length := by
    intro place member
    rw [places, List.mem_reverse] at member
    rw [entries]
    exact List.lt_add_of_mem_findIdxs place member
  obtain ⟨quiet, taken⟩ := prune_of_within (descending_deadPlaces _) within
  refine ⟨quiet, fun kind => ?_⟩
  rw [handlersOf_prune, amid.roll.number?_eq, amid.roll.handlersOf_eq]
  by_cases same : kind = event.kind
  · rw [if_pos (same ▸ found), if_pos same, taken, entries, places, foldl_eraseIdx_findIdxs, same]
    refine List.filter_congr fun handler _ => ?_
    exact Bool.not_not _
  · rw [if_neg fun known => same (tidy.apart known found), if_neg same]

/-- A delivery whose handlers do nothing but raise weeds the bus. -/
theorem publish_raising
    (tidy : bus.Tidy) (unheld : bus.held = [])
    (known : ∀ handler ∈ bus.handlersOf event.kind, book.Knows handler) :
    Weeds bus event (publish (.raising faults) bus event) := by
  have delivered := delivered_publish (.raising faults) bus event
  rw [deliveries_raising unheld known] at delivered
  cases found : bus.number? event.kind with
  | none =>
      rw [publish_of_unknown _ bus event found] at delivered ⊢
      refine ⟨rfl, tidy, unheld, rfl, delivered, fun kind => ?_⟩
      split
      · rename_i same
        rw [same, handlersOf_of_unknown found]
        rfl
      · rfl
  | some number =>
      obtain ⟨-, amid⟩ := turnsOf_raising faults unheld known
      obtain ⟨quiet, registered⟩ := prune_raising faults tidy unheld known found
      obtain ⟨rosters, size, same⟩ := exists_rosters_prune (served (.raising faults) bus event).2
        number (deadPlaces (turnsOf (.raising faults) bus event)).reverse
      rw [publish_of_number? _ bus event found] at delivered ⊢
      rw [same] at registered delivered ⊢
      have held := amid.held
      have untouched : Tidy { (served (.raising faults) bus event).2 with rosters := rosters } :=
        tidy.of_attached amid.roll.attached (size.trans (congrArg List.length amid.roll.rosters))
      cases last : (served (.raising faults) bus event).1 with
      | none =>
          rw [last] at held delivered
          exact ⟨quiet, untouched, held, amid.roll.released, delivered, registered⟩
      | some holder =>
          rw [last] at held delivered
          refine ⟨quiet, untouched.of_attached rfl rfl, ?_, amid.roll.released, delivered,
            registered⟩
          exact (congrArg (List.erase · holder.name) held).trans (List.erase_cons_head ..)

end Weeding

end EventBus

end QuoteDesk
