import QuoteDesk.Proofs.Bus.Delivery

/-!
# What the pruning takes

When the turns of a delivery are over, the places of the dead registrations are taken
out of the roster as it is then.  They were found in the roster as it was at the start,
so they may belong to other registrations by now, or be beyond the end.
-/

namespace QuoteDesk

namespace EventBus

/-! ## Places of a list -/

section Places

variable {α : Type} (keep : α → Bool)

/-- Removing one place leaves the kept entries alone when its entry is not among them. -/
theorem filter_eraseIdx_iff {entries : List α} {place : Nat} (within : place < entries.length) :
    (entries.eraseIdx place).filter keep = entries.filter keep ↔ keep entries[place] = false := by
  induction entries generalizing place with
  | nil => exact absurd within (Nat.not_lt_zero place)
  | cons entry rest inductionHypothesis =>
      cases place with
      | zero =>
          rw [List.eraseIdx_cons_zero, List.getElem_cons_zero, List.filter_cons]
          by_cases kept : keep entry = true
          · rw [if_pos kept, kept]
            exact iff_of_false List.ne_cons_self (by decide)
          · rw [if_neg kept]
            exact iff_of_true rfl (eq_false_of_ne_true kept)
      | succ place =>
          have restWithin : place < rest.length := Nat.lt_of_succ_lt_succ within
          rw [List.eraseIdx_cons_succ, List.getElem_cons_succ, List.filter_cons, List.filter_cons,
            ← inductionHypothesis restWithin]
          by_cases kept : keep entry = true
          · rw [if_pos kept, if_pos kept]
            exact List.cons_inj_right entry
          · rw [if_neg kept, if_neg kept]

theorem foldl_eraseIdx_sublist (places : List Nat) (entries : List α) :
    (places.foldl List.eraseIdx entries).Sublist entries := by
  induction places generalizing entries with
  | nil => exact .refl entries
  | cons place rest inductionHypothesis =>
      exact (inductionHypothesis _).trans (List.eraseIdx_sublist entries place)

/-- Places are taken from the last one on, so each of them is removed as it was found. -/
theorem filter_foldl_eraseIdx_iff
    {places : List Nat} {entries : List α} (descending : places.Pairwise (· > ·))
    (within : ∀ place ∈ places, place < entries.length) :
    (places.foldl List.eraseIdx entries).filter keep = entries.filter keep ↔
      ∀ place ∈ places, ∀ entry, entries[place]? = some entry → keep entry = false := by
  induction places generalizing entries with
  | nil => exact iff_of_true rfl (List.forall_mem_nil _)
  | cons place rest inductionHypothesis =>
      obtain ⟨after, restDescending⟩ := List.pairwise_cons.mp descending
      have placeWithin : place < entries.length := within place List.mem_cons_self
      let left := entries.eraseIdx place
      have leftLength : left.length = entries.length - 1 := List.length_eraseIdx_of_lt placeWithin
      have restWithin : ∀ other ∈ rest, other < left.length := by
        intro other member
        have := after other member
        omega
      have unmoved : ∀ other ∈ rest, left[other]? = entries[other]? := fun other member =>
        List.getElem?_eraseIdx_of_lt (after other member)
      have first : (left.filter keep).Sublist (entries.filter keep) :=
        (List.eraseIdx_sublist entries place).filter keep
      have second : ((rest.foldl List.eraseIdx left).filter keep).Sublist (left.filter keep) :=
        (foldl_eraseIdx_sublist rest left).filter keep
      -- The kept entries only become fewer: when none is missing in the end, none is on the way.
      have both : (rest.foldl List.eraseIdx left).filter keep = entries.filter keep ↔
          left.filter keep = entries.filter keep ∧
            (rest.foldl List.eraseIdx left).filter keep = left.filter keep := by
        constructor
        · intro kept
          have whole : left.filter keep = entries.filter keep :=
            first.antisymm (kept ▸ second)
          exact ⟨whole, kept.trans whole.symm⟩
        · rintro ⟨whole, kept⟩
          exact kept.trans whole
      -- What follows lies before the place, so it is where it was found.
      rw [List.foldl_cons, both, filter_eraseIdx_iff keep placeWithin,
        inductionHypothesis restDescending restWithin, List.forall_mem_cons]
      refine and_congr ?_ ?_
      · rw [List.getElem?_eq_getElem placeWithin]
        constructor
        · rintro dead entry ⟨⟩
          exact dead
        · exact fun dead => dead _ rfl
      · refine forall₂_congr fun other member => ?_
        rw [unmoved other member]

end Places

/-! ## The pruned roster -/

section Pruned

variable {bus : EventBus} {number : Nat}

theorem number_lt_of_lt_roster {place : Nat} (within : place < (bus.roster number).length) :
    number < bus.rosters.length := by
  by_contra beyond
  have nothing : bus.roster number = [] := by
    rw [roster, List.getD_eq_getElem?_getD, List.getElem?_eq_none (Nat.le_of_not_lt beyond)]
    rfl
  rw [nothing] at within
  exact absurd within (Nat.not_lt_zero place)

theorem roster_setRoster (known : number < bus.rosters.length) (handlers : List Handler) :
    (bus.setRoster number handlers).roster number = handlers := by
  unfold roster setRoster
  rw [List.getD_eq_getElem?_getD, List.getElem?_set_self known]
  rfl

theorem roster_setRoster_of_ne {other : Nat} (different : number ≠ other)
    (handlers : List Handler) :
    (bus.setRoster number handlers).roster other = bus.roster other := by
  unfold roster setRoster
  rw [List.getD_eq_getElem?_getD, List.getElem?_set_ne different, List.getD_eq_getElem?_getD]

theorem attached_prune (places : List Nat) :
    (bus.prune number places).2.attached = bus.attached := by
  induction places generalizing bus with
  | nil => rfl
  | cons place rest inductionHypothesis =>
      unfold prune
      split
      · exact inductionHypothesis
      · rfl

theorem roster_prune_of_ne {other : Nat} (different : number ≠ other) (places : List Nat) :
    (bus.prune number places).2.roster other = bus.roster other := by
  induction places generalizing bus with
  | nil => rfl
  | cons place rest inductionHypothesis =>
      unfold prune
      split
      · rw [inductionHypothesis, roster_setRoster_of_ne different]
      · rfl

/-- Places that are all there are all taken. -/
theorem prune_of_within
    {places : List Nat} (descending : places.Pairwise (· > ·))
    (within : ∀ place ∈ places, place < (bus.roster number).length) :
    (bus.prune number places).1 = none ∧
      (bus.prune number places).2.roster number =
        places.foldl List.eraseIdx (bus.roster number) := by
  induction places generalizing bus with
  | nil => exact ⟨rfl, rfl⟩
  | cons place rest inductionHypothesis =>
      obtain ⟨after, restDescending⟩ := List.pairwise_cons.mp descending
      have placeWithin := within place List.mem_cons_self
      let left := (bus.roster number).eraseIdx place
      have set : (bus.setRoster number left).roster number = left :=
        roster_setRoster (number_lt_of_lt_roster placeWithin) left
      have leftLength : left.length = (bus.roster number).length - 1 :=
        List.length_eraseIdx_of_lt placeWithin
      have restWithin :
          ∀ other ∈ rest, other < ((bus.setRoster number left).roster number).length := by
        intro other member
        rw [set]
        have := after other member
        omega
      have pruned := inductionHypothesis restDescending restWithin
      rw [set] at pruned
      rw [prune, if_pos placeWithin]
      exact pruned

/-- The first place that is taken is the greatest one: when it is there, so are all. -/
theorem within_of_prune_quiet
    {places : List Nat} (descending : places.Pairwise (· > ·))
    (quiet : (bus.prune number places).1 = none) :
    ∀ place ∈ places, place < (bus.roster number).length := by
  cases places with
  | nil => exact List.forall_mem_nil _
  | cons place rest =>
      obtain ⟨after, -⟩ := List.pairwise_cons.mp descending
      have placeWithin : place < (bus.roster number).length := by
        by_contra beyond
        rw [prune, if_neg beyond] at quiet
        exact absurd quiet (Option.some_ne_none _)
      rw [List.forall_mem_cons]
      exact ⟨placeWithin, fun other member => Nat.lt_trans (after other member) placeWithin⟩

theorem handlersOf_prune (kind : String) (places : List Nat) :
    (bus.prune number places).2.handlersOf kind =
      if bus.number? kind = some number then (bus.prune number places).2.roster number
      else bus.handlersOf kind := by
  have sameNumber : (bus.prune number places).2.number? kind = bus.number? kind := by
    rw [number?, attached_prune, number?]
  rw [handlersOf, sameNumber, handlersOf]
  by_cases known : bus.number? kind = some number
  · rw [if_pos known, known]
    rfl
  · rw [if_neg known]
    cases other : bus.number? kind with
    | none => rfl
    | some otherNumber =>
        have different : number ≠ otherNumber := fun equal => known (equal ▸ other)
        exact roster_prune_of_ne different places

end Pruned

theorem handlersOf_letGo (bus : EventBus) (holding : Option Handler) (kind : String) :
    (bus.letGo holding).handlersOf kind = bus.handlersOf kind := by
  cases holding with
  | none => rfl
  | some handler => rfl

/-! ## Deliveries that spare the living -/

/-- From a bus to the result of some work, nothing is raised and no registration goes
whose handler is alive on that bus. -/
structure Spares (bus : EventBus) (result : Option Fault × EventBus) : Prop where
  quiet : result.1 = none
  keeps : ∀ kind,
    (result.2.handlersOf kind).filter bus.isAlive = (bus.handlersOf kind).filter bus.isAlive

/-- Places of a roster that can be pruned without harm: they are there, and they hold
dead registrations if the roster is in use. -/
def Vacant (bus : EventBus) (number place : Nat) : Prop :=
  ∃ handler, (bus.roster number)[place]? = some handler ∧
    ((∃ kind, bus.number? kind = some number) → bus.isAlive handler = false)

theorem Spares.letGo_iff {bus : EventBus} {result : Option Fault × EventBus}
    (holding : Option Handler) :
    Spares bus (result.1, result.2.letGo holding) ↔ Spares bus result := by
  constructor
  · rintro ⟨quiet, keeps⟩
    refine ⟨quiet, fun kind => ?_⟩
    rw [← keeps kind, handlersOf_letGo]
  · rintro ⟨quiet, keeps⟩
    refine ⟨quiet, fun kind => ?_⟩
    rw [← keeps kind, handlersOf_letGo]

/-- Taking places away spares the registrations of others exactly where the places are vacant. -/
theorem spares_prune_iff
    (bus : EventBus) (number : Nat) {places : List Nat} (descending : places.Pairwise (· > ·)) :
    Spares bus (bus.prune number places) ↔ ∀ place ∈ places, bus.Vacant number place := by
  constructor
  · rintro ⟨quiet, keeps⟩ place member
    have within := within_of_prune_quiet descending quiet
    obtain ⟨-, pruned⟩ := prune_of_within descending within
    have here : place < (bus.roster number).length := within place member
    refine ⟨(bus.roster number)[place], List.getElem?_eq_getElem here, ?_⟩
    rintro ⟨kind, known⟩
    have kept := keeps kind
    rw [handlersOf_prune, if_pos known, pruned, handlersOf_of_number? known,
      filter_foldl_eraseIdx_iff bus.isAlive descending within] at kept
    exact kept place member _ (List.getElem?_eq_getElem here)
  · intro vacant
    have within : ∀ place ∈ places, place < (bus.roster number).length := by
      intro place member
      obtain ⟨handler, found, -⟩ := vacant place member
      exact (List.getElem?_eq_some_iff.mp found).1
    obtain ⟨quiet, pruned⟩ := prune_of_within descending within
    refine ⟨quiet, fun kind => ?_⟩
    rw [handlersOf_prune]
    by_cases known : bus.number? kind = some number
    · rw [if_pos known, pruned, handlersOf_of_number? known,
        filter_foldl_eraseIdx_iff bus.isAlive descending within]
      intro place member entry found
      obtain ⟨handler, here, dead⟩ := vacant place member
      have same : handler = entry := Option.some.inj (here.symm.trans found)
      exact same ▸ dead ⟨kind, known⟩
    · rw [if_neg known]

theorem descending_deadPlaces (turns : List BusTurn) :
    (deadPlaces turns).reverse.Pairwise (· > ·) :=
  List.pairwise_reverse.mpr List.pairwise_findIdxs

/-- After work that spares them, the living have their turns in the next delivery. -/
theorem Spares.turns_later
    {bus : EventBus} {result : Option Fault × EventBus} (spares : Spares bus result)
    (behaviour : Behaviour) (later : BusEvent) :
    ((turnsOf behaviour result.2 later).map BusTurn.handler).filter bus.isAlive =
      (bus.handlersOf later.kind).filter bus.isAlive := by
  rw [turnsOf, map_handler_turns]
  exact spares.keeps later.kind

/-- A publish spares the registrations of others exactly where the places of its dead handlers are
vacant. -/
theorem publish_spares
    (behaviour : Behaviour) (bus : EventBus) (event : BusEvent) :
    Spares (served behaviour bus event).2 (publish behaviour bus event) ↔
      ∀ number, bus.number? event.kind = some number →
        ∀ place ∈ deadPlaces (turnsOf behaviour bus event),
          (served behaviour bus event).2.Vacant number place := by
  cases known : bus.number? event.kind with
  | none =>
      rw [publish_of_unknown behaviour bus event known]
      have unserved : (served behaviour bus event).2 = bus.announcing event := by
        rw [served, handlersOf_of_unknown known]
        rfl
      rw [unserved]
      refine iff_of_true ⟨rfl, fun kind => rfl⟩ ?_
      exact fun number impossible => absurd impossible.symm (Option.some_ne_none number)
  | some number =>
      have descending := descending_deadPlaces (turnsOf behaviour bus event)
      rw [publish_of_number? behaviour bus event known, Spares.letGo_iff,
        spares_prune_iff _ number descending]
      constructor
      · rintro vacant _ ⟨⟩ place member
        exact vacant place (List.mem_reverse.mpr member)
      · intro vacant place member
        exact vacant number rfl place (List.mem_reverse.mp member)

/-- A delivery raises nothing and takes no living registration beyond what its handlers
do, exactly when each place at which a dead registration was found still holds a dead
one when the turns are over.  Then the living also have their turns in the delivery of
the next event. -/
theorem publish_spares_iff (behaviour : Behaviour) (bus : EventBus) (event : BusEvent) :
    let left := (served behaviour bus event).2
    let result := publish behaviour bus event
    (Spares left result ↔
      ∀ number, bus.number? event.kind = some number →
        ∀ place ∈ deadPlaces (turnsOf behaviour bus event), left.Vacant number place) ∧
    (Spares left result → ∀ later,
      ((turnsOf behaviour result.2 later).map BusTurn.handler).filter left.isAlive =
        (left.handlersOf later.kind).filter left.isAlive) :=
  ⟨publish_spares behaviour bus event, fun spares later => spares.turns_later behaviour later⟩

/-! ### A delivery that takes a living registration -/

/-- The bus when some actions were taken from outside. -/
def afterActions (behaviour : Behaviour) (bus : EventBus) (actions : List BusAction) : EventBus :=
  actions.foldl (fun bus action => (act behaviour bus action).2) bus

def once : Handler := ⟨"once", "once", false⟩
def observer : Handler := ⟨"observer", "Observer.on_event", true⟩
def faithful : Handler := ⟨"faithful", "faithful", false⟩

/-- The first handler takes its own registration away when it is called. -/
def leaving : Behaviour := fun _ handler event =>
  if handler = once then [.unsubscribe event.kind handler] else []

/-- Registrations in an order, and then the observer dies. -/
def registering (handlers : List Handler) : List BusAction :=
  handlers.map (.subscribe "BomReady") ++ [.release observer]

/-- The observer was found at the second place, where another registration is by then. -/
theorem not_every_publish_spares :
    ¬ ∀ (behaviour : Behaviour) (allowance : Nat) (actions : List BusAction) (event : BusEvent),
      let bus := afterActions behaviour (.empty allowance) actions
      Spares (served behaviour bus event).2 (publish behaviour bus event) := by
  intro every
  have spares := every leaving 19 (registering [once, observer, faithful]) ⟨"BomReady", []⟩
  exact absurd (spares.keeps "BomReady") (by decide +kernel)

/-- Without the last registration, nothing is at the second place by then. -/
example :
    (publish leaving (afterActions leaving (.empty 19) (registering [once, observer]))
      ⟨"BomReady", []⟩).1 = some (.indexOutOfRange "pop index out of range") := by
  rfl

end EventBus

end QuoteDesk
