import QuoteDesk.Proofs.Session.Authority
import QuoteDesk.Proofs.Session.Marks

/-!
# Which changes are announced

The changes that an answered chat turn makes are announced when its commands were
executed to their end.  A turn in which a call fails behind calls that changed the
quote stops half way; its changes stand and are not announced.
-/

namespace QuoteDesk

variable {σ : Type}

/-! ## Announcements -/

/-- The commands that an event announces. -/
def SessionEvent.commands? : SessionEvent → Option (List Command)
  | .directivesExecuted _ commands => some commands
  | .turnStarted _ _ => none
  | .turnCompleted _ _ => none
  | .turnFailed _ _ => none
  | .modeChanged _ _ => none
  | .bomReady _ => none

/-- The commands announced by some events, in order. -/
def announcedIn (events : List SessionEvent) : List Command :=
  (events.filterMap SessionEvent.commands?).flatten

@[simp]
theorem announcedIn_append (first second : List SessionEvent) :
    announcedIn (first ++ second) = announcedIn first ++ announcedIn second := by
  rw [announcedIn, List.filterMap_append, List.flatten_append]
  rfl

theorem passesModes_commands? : PassesModes SessionEvent.commands? :=
  fun _ _ => rfl

@[simp]
theorem announcedIn_modeChange (previous current : SessionMode) :
    announcedIn (modeChange previous current) = [] :=
  congrArg List.flatten (passesModes_commands?.modeChange previous current)

theorem announcedIn_announcement (turn : Turn σ) (executed : List Command) :
    announcedIn (turn.announcement executed) = executed := by
  rw [announcedIn, filterMap_announcement]
  by_cases nothing : executed.isEmpty
  · rw [if_pos nothing, List.isEmpty_iff.1 nothing]
    rfl
  · rw [if_neg nothing]
    exact List.append_nil executed

namespace Session

@[simp]
theorem announcedIn_leaving (session : Session σ) : announcedIn session.leaving = [] :=
  congrArg List.flatten (passesModes_commands?.leaving session)

@[simp]
theorem announcedIn_failing (session : Session σ) (turn : Turn σ) (fault : Fault) :
    announcedIn (session.failing turn fault) = [] :=
  congrArg List.flatten (passesModes_commands?.failing session turn fault)

@[simp]
theorem announcedIn_opening (session : Session σ) (turn : Turn σ) :
    announcedIn (session.opening turn) = [] :=
  congrArg List.flatten (passesModes_commands?.opening session turn)

@[simp]
theorem announcedIn_presenting (session : Session σ) (bom : Bom) :
    announcedIn (session.presenting bom) = [] :=
  congrArg List.flatten (passesModes_commands?.presenting (fun _ => rfl) session bom)

end Session

/-! ## Changes -/

/-- The change that a call made, if it did not fail. -/
def NotedCall.change? (noted : NotedCall) : Option QuoteCall :=
  match noted.failure with
  | none => some noted.call
  | some _ => none

theorem changes_of_succeeded (changes : List QuoteCall) :
    (changes.map QuoteCall.succeeded).filterMap NotedCall.change? = changes := by
  rw [List.filterMap_map]
  exact List.filterMap_some

namespace Occurrence

/-- The changes of the quote made while a turn ends; a review is no turn. -/
def changes (observer : Observer σ) (occurred : Occurrence σ) : List QuoteCall :=
  match occurred.act with
  | .addBom _ => []
  | _ => (occurred.calls observer).filterMap NotedCall.change?

/-- The turn changed the quote, and then a call of it failed. -/
def Halfway (observer : Observer σ) (occurred : Occurrence σ) : Prop :=
  occurred.changes observer ≠ [] ∧
    ∃ noted ∈ occurred.calls observer, noted.failure ≠ none

/-- What an act announces of the changes that it makes: all of them, or nothing
when it stops half way and the turn fails. -/
inductive Discloses (observer : Observer σ) (occurred : Occurrence σ) : Prop
  | fully
      (whole : ¬ occurred.Halfway observer)
      (made : List.Forall₂ Command.Makes (announcedIn occurred.told)
        (occurred.changes observer))
  | silently {turn : Turn σ}
      (halfway : occurred.Halfway observer)
      (flying : occurred.before.session.turn = some turn)
      (ended : occurred.outcome = .answered turn.failure)
      (nothing : announcedIn occurred.told = [])

namespace Discloses

variable {observer : Observer σ} {occurred : Occurrence σ}

theorem of_silence
    (unchanged : occurred.changes observer = []) (nothing : announcedIn occurred.told = []) :
    occurred.Discloses observer := by
  refine .fully (fun halfway => halfway.1 unchanged) ?_
  rw [nothing, unchanged]
  exact .nil

theorem length_le (discloses : occurred.Discloses observer) :
    (announcedIn occurred.told).length ≤ (occurred.changes observer).length := by
  cases discloses with
  | fully _ made => exact Nat.le_of_eq made.length_eq
  | silently _ _ _ nothing =>
      rw [nothing]
      exact Nat.zero_le _

theorem whole_of_length_eq
    (discloses : occurred.Discloses observer)
    (same : (announcedIn occurred.told).length = (occurred.changes observer).length) :
    ¬ occurred.Halfway observer := by
  intro halfway
  cases discloses with
  | fully whole => exact whole halfway
  | silently _ _ _ nothing =>
      rw [nothing] at same
      exact halfway.1 (List.length_eq_zero_iff.1 same.symm)

theorem makes_of_whole
    (discloses : occurred.Discloses observer) (whole : ¬ occurred.Halfway observer) :
    List.Forall₂ Command.Makes (announcedIn occurred.told) (occurred.changes observer) := by
  cases discloses with
  | fully _ made => exact made
  | silently halfway => exact absurd halfway whole

end Discloses

end Occurrence

namespace Stage

/-! ## One act -/

theorem changes_eq_nil
    {observer : Observer σ} {occurred : Occurrence σ}
    (noCalls : occurred.before.callsOf occurred.act = []) :
    occurred.changes observer = [] := by
  unfold Occurrence.changes
  rw [Occurrence.calls_eq, noCalls]
  split <;> rfl

section Replying

variable {stage after : Stage σ} {turn : Turn σ} {value : Value} {outcome : StepOutcome}

theorem calls_of_reply
    (flying : stage.session.turn = some turn) (chat : turn.building = false)
    (observer : Observer σ) :
    Occurrence.calls observer ⟨stage, .answer (.reply value), outcome, after⟩ =
      Reply.callsOf turn.context stage.bench value := by
  rw [Occurrence.calls_eq, turnCalls_of_flying flying, turnCalls_of_chat chat]

/-- A reply that was processed to its end announces what it changed. -/
theorem discloses_of_processed
    {processed : Processed}
    (flying : stage.session.turn = some turn) (chat : turn.building = false)
    (returned : (Reply.process turn.context stage.bench value).1 = .ok processed)
    (told : announcedIn (Occurrence.told ⟨stage, .answer (.reply value), outcome, after⟩) =
      processed.executed)
    (observer : Observer σ) :
    Occurrence.Discloses observer ⟨stage, .answer (.reply value), outcome, after⟩ := by
  obtain ⟨changes, calls, made⟩ := Reply.calls_of_ok returned
  have noted := @calls_of_reply _ stage after turn value outcome flying chat observer
  rw [calls] at noted
  have changed : Occurrence.changes observer ⟨stage, .answer (.reply value), outcome, after⟩ =
      changes := by
    simp only [Occurrence.changes, noted, changes_of_succeeded]
  refine .fully ?_ ?_
  · rintro ⟨_, failed, member, failure⟩
    rw [noted] at member
    obtain ⟨call, _, same⟩ := List.mem_map.1 member
    rw [← same] at failure
    exact failure rfl
  · rw [told, changed]
    exact made

/-- A reply whose processing failed announces nothing. -/
theorem discloses_of_raised
    {fault : Fault}
    (flying : stage.session.turn = some turn) (chat : turn.building = false)
    (raised : (Reply.process turn.context stage.bench value).1 = .error fault)
    (told : announcedIn (Occurrence.told
      ⟨stage, .answer (.reply value), .answered turn.failure, after⟩) = [])
    (observer : Observer σ) :
    Occurrence.Discloses observer
      ⟨stage, .answer (.reply value), .answered turn.failure, after⟩ := by
  have noted :=
    @calls_of_reply _ stage after turn value (.answered turn.failure) flying chat observer
  rcases Reply.calls_of_error raised with noCalls | ⟨changes, call, calls⟩
  · refine .of_silence ?_ told
    simp only [Occurrence.changes, noted, noCalls, List.filterMap_nil]
  · rw [calls] at noted
    have changed : Occurrence.changes observer
        ⟨stage, .answer (.reply value), .answered turn.failure, after⟩ = changes := by
      simp only [Occurrence.changes, noted, List.filterMap_append, changes_of_succeeded]
      exact List.append_nil changes
    cases changes with
    | nil => exact .of_silence changed told
    | cons first others =>
        refine .silently ⟨?_, ⟨call, some fault⟩, ?_, nofun⟩ flying rfl told
        · rw [changed]
          exact List.cons_ne_nil first others
        · rw [noted]
          exact List.mem_append_right _ List.mem_cons_self

end Replying

theorem Moves.discloses
    {stage after : Stage σ} {act : SessionAct σ} {outcome : StepOutcome}
    (moves : stage.Moves act outcome after)
    (unanswered : outcome.Quiet → ∀ answer, act = .answer answer → stage.session.turn = none)
    (observer : Observer σ) :
    Occurrence.Discloses observer ⟨stage, act, outcome, after⟩ := by
  cases moves with
  | stays quiet _ leads =>
      have silent : announcedIn (Occurrence.told ⟨stage, act, outcome, after⟩) = [] := by
        rw [leads.told]
        rfl
      cases act with
      | answer answer =>
          have idle := unanswered quiet answer rfl
          refine .of_silence (changes_eq_nil ?_) silent
          rw [callsOf, idle]
          rfl
      | addBom context => exact .of_silence rfl silent
      | send context input => exact .of_silence (changes_eq_nil rfl) silent
      | timeOut => exact .of_silence (changes_eq_nil rfl) silent
      | cancel => exact .of_silence (changes_eq_nil rfl) silent
      | dismissBom => exact .of_silence (changes_eq_nil rfl) silent
  | waits _ _ leads =>
      exact .of_silence (changes_eq_nil rfl) (by rw [leads.told, Session.announcedIn_opening])
  | expires _ _ _ leads =>
      refine .of_silence (changes_eq_nil rfl) ?_
      rw [leads.told, announcedIn_append, Session.announcedIn_opening, Session.announcedIn_failing]
      rfl
  | @fails _ answer turn fault _ brings flying cause leads =>
      have silent : announcedIn
          (Occurrence.told ⟨stage, act, .answered turn.failure, after⟩) = [] := by
        rw [leads.told, Session.announcedIn_failing]
      have answered := turnCalls_of_flying flying answer
      cases brings with
      | timeOut => exact .of_silence (changes_eq_nil rfl) silent
      | answer =>
          cases cause with
          | assistant => exact .of_silence (changes_eq_nil answered) silent
          | noAnalysis building =>
              rw [turnCalls_of_building building] at answered
              exact .of_silence (changes_eq_nil answered) silent
          | report building =>
              rw [turnCalls_of_building building] at answered
              exact .of_silence (changes_eq_nil answered) silent
          | processing chat raised =>
              exact discloses_of_raised flying chat raised silent observer
  | @replies answer turn _ processed message _ flying chat replied returned _ leads =>
      have told : announcedIn (Occurrence.told ⟨stage, .answer answer, .answered message, after⟩) =
          processed.executed := by
        rw [leads.told, announcedIn_append, announcedIn_announcement]
        exact List.append_nil processed.executed
      cases replied with
      | reply => exact discloses_of_processed flying chat returned told observer
      | analysis =>
          cases returned
          exact .of_silence (changes_eq_nil (turnCalls_of_flying flying _)) told
  | analyses flying building _ _ leads =>
      have answered := turnCalls_of_flying flying
      refine .of_silence (changes_eq_nil (answered _)) ?_
      rw [leads.told, announcedIn_append, Session.announcedIn_presenting]
      rfl
  | cancels _ leads =>
      exact .of_silence (changes_eq_nil rfl) (by rw [leads.told, Session.announcedIn_leaving])
  | adds _ _ _ _ _ leads =>
      exact .of_silence rfl (by rw [leads.told, announcedIn_modeChange])
  | dismisses _ leads =>
      exact .of_silence (changes_eq_nil rfl) (by rw [leads.told, announcedIn_modeChange])

/-- One act discloses what it changed. -/
theorem perform_discloses (observer : Observer σ) (stage : Stage σ) (act : SessionAct σ) :
    (stage.occurrence observer act).Discloses observer := by
  refine (perform_moves observer stage act).discloses ?_ observer
  rintro quiet answer rfl
  cases flying : stage.session.turn with
  | none => rfl
  | some turn => exact absurd quiet (not_quiet_of_ending flying rfl observer)

/-! ## A run -/

theorem announcedIn_told (occurred : List (Occurrence σ)) :
    announcedIn (occurred.flatMap Occurrence.told) =
      occurred.flatMap fun one => announcedIn one.told := by
  induction occurred with
  | nil => rfl
  | cons first later inductionHypothesis =>
      rw [List.flatMap_cons, List.flatMap_cons, announcedIn_append, inductionHypothesis]

section Runs

variable {observer : Observer σ} {occurred : List (Occurrence σ)}

theorem announced_length_le
    (disclose : ∀ one ∈ occurred, one.Discloses observer) :
    (occurred.flatMap fun one => announcedIn one.told).length ≤
      (occurred.flatMap (Occurrence.changes observer)).length := by
  induction occurred with
  | nil => exact Nat.le_refl _
  | cons first later inductionHypothesis =>
      have laterShorter := inductionHypothesis fun one member =>
        disclose one (List.mem_cons_of_mem first member)
      have firstShorter := (disclose first List.mem_cons_self).length_le
      rw [List.flatMap_cons, List.flatMap_cons, List.length_append, List.length_append]
      exact Nat.add_le_add firstShorter laterShorter

/-- Announcements are as many as the changes only when no turn stopped half way. -/
theorem whole_of_length_eq
    (disclose : ∀ one ∈ occurred, one.Discloses observer)
    (same : (occurred.flatMap fun one => announcedIn one.told).length =
      (occurred.flatMap (Occurrence.changes observer)).length) :
    ∀ one ∈ occurred, ¬ one.Halfway observer := by
  induction occurred with
  | nil =>
      intro one member
      cases member
  | cons first later inductionHypothesis =>
      have laterDisclose : ∀ one ∈ later, one.Discloses observer := fun one member =>
        disclose one (List.mem_cons_of_mem first member)
      have firstDiscloses := disclose first List.mem_cons_self
      have laterShorter := announced_length_le laterDisclose
      have firstShorter := firstDiscloses.length_le
      rw [List.flatMap_cons, List.flatMap_cons, List.length_append, List.length_append] at same
      intro one member
      rcases List.mem_cons.1 member with isFirst | further
      · rw [isFirst]
        exact firstDiscloses.whole_of_length_eq (by omega)
      · exact inductionHypothesis laterDisclose (by omega) one further

theorem makes_of_whole
    (disclose : ∀ one ∈ occurred, one.Discloses observer)
    (whole : ∀ one ∈ occurred, ¬ one.Halfway observer) :
    List.Forall₂ Command.Makes (occurred.flatMap fun one => announcedIn one.told)
      (occurred.flatMap (Occurrence.changes observer)) := by
  induction occurred with
  | nil => exact .nil
  | cons first later inductionHypothesis =>
      have laterMade := inductionHypothesis
        (fun one member => disclose one (List.mem_cons_of_mem first member))
        (fun one member => whole one (List.mem_cons_of_mem first member))
      have firstMade := (disclose first List.mem_cons_self).makes_of_whole
        (whole first List.mem_cons_self)
      rw [List.flatMap_cons, List.flatMap_cons]
      exact List.rel_append firstMade laterMade

end Runs

/-- Every act of a run discloses what it changed. -/
theorem run_discloses
    (observer : Observer σ) (stage : Stage σ) (acts : List (SessionAct σ)) :
    ∀ one ∈ stage.occurrences observer acts, one.Discloses observer := by
  intro one member
  obtain ⟨before, act, rfl⟩ := exists_of_mem_occurrences member
  exact perform_discloses observer before act

/-- In every run the announced commands are those of the changes that turns made, in
order, exactly when no turn stopped half way.  Each turn announces all its changes,
or stops half way, fails and announces none. -/
theorem run_announces_changes_iff
    (observer : Observer σ) (limits : SessionLimits) (bench : Bench σ)
    (acts : List (SessionAct σ)) :
    let start := ofSession (.fresh limits) bench
    let after := start.run observer acts
    let occurred := start.occurrences observer acts
    announcedIn after.events = (occurred.flatMap fun one => announcedIn one.told) ∧
      (List.Forall₂ Command.Makes (announcedIn after.events)
          (occurred.flatMap (Occurrence.changes observer)) ↔
        ∀ one ∈ occurred, ¬ one.Halfway observer) ∧
      ∀ one ∈ occurred, one.Discloses observer := by
  intro start after occurred
  have disclose : ∀ one ∈ occurred, one.Discloses observer := run_discloses observer start acts
  have announced : announcedIn after.events =
      (occurred.flatMap fun one => announcedIn one.told) := by
    have events : after.events = occurred.flatMap Occurrence.told := run_events observer start acts
    rw [events, announcedIn_told]
  refine ⟨announced, ?_, disclose⟩
  rw [announced]
  constructor
  · intro made
    exact whole_of_length_eq disclose made.length_eq
  · exact makes_of_whole disclose

/-- A reply that adds an article and then removes one that the desk keeps. -/
def halfwayTurn : List (SessionAct Desk) :=
  let context : TurnContext Desk :=
    ⟨.list [.dict [("id", .text "A-1")]], Desk.access ⟨[], ["B-2"], false⟩, .null⟩
  [.send context "hello",
    .answer (.reply (.text
      "[ACTION:ADD_TO_QUOTE, SKU:A-1, QUANTITY:2][ACTION:REMOVE_FROM_QUOTE, SKU:B-2]"))]

/-- Not every change that a turn makes is announced. -/
theorem not_every_change_announced :
    ¬ ∀ (observer : Observer Desk) (limits : SessionLimits) (bench : Bench Desk)
      (acts : List (SessionAct Desk)),
      let start := ofSession (.fresh limits) bench
      List.Forall₂ Command.Makes (announcedIn (start.run observer acts).events)
        ((start.occurrences observer acts).flatMap (Occurrence.changes observer)) := by
  intro every
  have same := (every .none .standard ⟨.empty, .nowhere, []⟩ halfwayTurn).length_eq
  exact absurd same (by decide +kernel)

end Stage

end QuoteDesk
