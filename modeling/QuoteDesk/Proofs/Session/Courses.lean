import QuoteDesk.Proofs.Session.Modes
import QuoteDesk.Proofs.Session.Vain

/-!
# The course of a turn

A turn is a message that is taken, whatever is tried while it waits for its
answer, and the act that ends it.  A chat turn leaves the mode and the bill of
materials as they were, however it ends.  A building turn leaves a review of its
own analysis, or plain chat when there is nothing to review.
-/

namespace QuoteDesk

open Text

variable {σ : Type}

namespace SessionAct

/-- The acts that end a turn in flight. -/
def endsTurn : SessionAct σ → Bool
  | .answer _ => true
  | .timeOut => true
  | .cancel => true
  | .send _ _ => false
  | .addBom _ => false
  | .dismissBom => false

/-- The act answers with an analysis that can be shown and whose bill of materials
has something on it. -/
inductive Presents : SessionAct σ → Bom → Prop
  | analysis {analysis : Analysis} {text : String} :
      analysis.report = .ok text →
      analysis.bom.lines ≠ [] →
      Presents (.answer (.analysis analysis)) analysis.bom

end SessionAct

namespace Session

/-! ## What is under review -/

/-- The mode of a session with what waits for review. -/
def review (session : Session σ) : SessionMode × Option Bom :=
  (session.mode, session.pending)

theorem abandoned_review (session : Session σ) :
    session.abandoned.review =
      if session.mode = .building then (.chat, none) else session.review := by
  unfold abandoned
  split <;> rfl

theorem opened_review (session : Session σ) (turn : Turn σ) :
    (session.opened turn).review =
      if turn.building then (.building, none) else session.review := by
  unfold opened
  split <;> rfl

theorem reviewing_review (session : Session σ) (bom : Bom) :
    (session.reviewing bom).review =
      if bom.lines.isEmpty then (.chat, none) else (.bomPreview, some bom) := by
  unfold reviewing
  split <;> rfl

/-- What a turn that ends with nothing to review leaves: a building turn drops what
it began, a chat turn touches nothing. -/
def reviewWithout (session : Session σ) (turn : Turn σ) : SessionMode × Option Bom :=
  if turn.building then (.chat, none) else session.review

theorem opened_reviewWithout (session : Session σ) (turn : Turn σ) :
    (session.opened turn).reviewWithout turn = session.reviewWithout turn := by
  unfold reviewWithout
  by_cases building : turn.building
  · rw [if_pos building, if_pos building]
  · rw [if_neg building, if_neg building, opened_review, if_neg building]

theorem Sound.abandoned_review
    {session : Session σ} {turn : Turn σ}
    (sound : session.Sound) (flying : session.turn = some turn) :
    session.abandoned.review = session.reviewWithout turn := by
  rw [Session.abandoned_review, reviewWithout]
  by_cases building : turn.building
  · have analysing : session.mode = .building := sound.analyses.2 ⟨turn, flying, building⟩
    rw [if_pos analysing, if_pos building]
  · have left := sound.mode_ne_building_of_chat flying (Bool.eq_false_iff.2 building)
    rw [if_neg left, if_neg building]

end Session

namespace Stage

/-! ## In flight -/

/-- While a turn is in flight, nothing but its end changes the stage. -/
theorem perform_in_flight
    {stage : Stage σ} {turn : Turn σ} {act : SessionAct σ}
    (flying : stage.session.turn = some turn) (tried : act.endsTurn = false)
    (observer : Observer σ) : (stage.perform observer act).2 = stage := by
  have busy : stage.session.isBusy = true := by
    rw [Session.isBusy, flying, Option.isSome_some]
  have vain : stage.session.isVain act = true := by
    cases act with
    | send | addBom | dismissBom => simp [Session.isVain, busy]
    | answer | timeOut | cancel => cases tried
  exact (perform_of_isVain vain observer).2

/-- Nothing but an end reaches a turn in flight. -/
theorem run_in_flight
    {stage : Stage σ} {turn : Turn σ} {acts : List (SessionAct σ)}
    (flying : stage.session.turn = some turn)
    (tried : ∀ act ∈ acts, act.endsTurn = false) (observer : Observer σ) :
    stage.run observer acts = stage := by
  induction acts with
  | nil => rfl
  | cons act later inductionHypothesis =>
      have first := perform_in_flight flying (tried act List.mem_cons_self) observer
      rw [run_cons, first]
      exact inductionHypothesis fun other member =>
        tried other (List.mem_cons_of_mem act member)

/-- Every turn ends with a message. -/
theorem finishTurn_answered
    (observer : Observer σ) (turn : Turn σ) (answer : BackendAnswer) (stage : Stage σ) :
    ∃ message, (stage.finishTurn observer turn answer).1 = .answered message := by
  have chat : ∀ value, ∃ message,
      (stage.finishChat observer turn value).1 = .answered message := by
    intro value
    unfold finishChat
    rcases Reply.process turn.context stage.bench value with ⟨fault | processed, bench⟩
    · exact ⟨_, rfl⟩
    · exact ⟨_, rfl⟩
  unfold finishTurn
  cases answer with
  | failed fault => exact ⟨_, rfl⟩
  | reply value =>
      by_cases building : turn.building
      · simp only [building, if_true]
        exact ⟨_, rfl⟩
      · simp only [building]
        exact chat value
  | analysis analysis =>
      by_cases building : turn.building
      · simp only [building, if_true, finishBuilding]
        cases analysis.report with
        | error fault => exact ⟨_, rfl⟩
        | ok text => exact ⟨_, rfl⟩
      · simp only [building]
        exact chat .null

/-- An end is never refused or ignored while a turn is in flight. -/
theorem not_quiet_of_ending
    {stage : Stage σ} {turn : Turn σ} {act : SessionAct σ}
    (flying : stage.session.turn = some turn) (ends : act.endsTurn = true)
    (observer : Observer σ) : ¬ (stage.perform observer act).1.Quiet := by
  have finished : ∀ answer, ¬ (stage.finish observer answer).1.Quiet := by
    intro answer quiet
    obtain ⟨message, answered⟩ := finishTurn_answered observer turn answer stage
    rw [finish, flying] at quiet
    simp only [answered] at quiet
    cases quiet
  cases act with
  | answer answer => exact finished answer
  | timeOut => exact finished (.failed .timedOut)
  | cancel =>
      intro quiet
      rw [perform, cancel, flying] at quiet
      cases quiet
  | send | addBom | dismissBom => cases ends

/-- A message that is taken waits for its answer while there is time. -/
theorem waits_of_taken
    {stage : Stage σ} {input : String}
    (taken : stage.session.Takes input)
    (patient : Session.patience stage.session.limits.timeout = .limited)
    (observer : Observer σ) (context : TurnContext σ) :
    (stage.perform observer (.send context input)).1 = .waiting := by
  rw [perform, begin_of_taken taken, start_eq]
  simp only [patient]

/-! ## The end of a turn -/

theorem Moves.idle_of_ending
    {stage after : Stage σ} {act : SessionAct σ} {outcome : StepOutcome}
    (moves : stage.Moves act outcome after) (ends : act.endsTurn = true)
    (carried : ¬ outcome.Quiet) : after.session.turn = none := by
  cases moves with
  | stays quiet => exact absurd quiet carried
  | fails _ _ _ leads => rw [leads.reaches]; rfl
  | replies _ _ _ _ _ leads => rw [leads.reaches]; rfl
  | analyses _ _ _ _ leads => rw [leads.reaches]; rfl
  | cancels _ leads => rw [leads.reaches]; rfl
  | waits | expires | adds | dismisses => cases ends

/-- A turn that ends leaves the review that it presents, and otherwise none of its
own. -/
theorem Moves.review_of_ending
    {stage after : Stage σ} {turn : Turn σ} {act : SessionAct σ} {outcome : StepOutcome}
    (moves : stage.Moves act outcome after)
    (sound : stage.session.Sound) (flying : stage.session.turn = some turn)
    (ends : act.endsTurn = true) (carried : ¬ outcome.Quiet) :
    (∀ bom, turn.building = true → act.Presents bom →
        after.session.review = (.bomPreview, some bom)) ∧
      ((turn.building = true → ∀ bom, ¬ act.Presents bom) →
        after.session.review = stage.session.reviewWithout turn) := by
  have without := sound.abandoned_review flying
  cases moves with
  | stays quiet => exact absurd quiet carried
  | waits | expires | adds | dismisses => cases ends
  | @fails _ answer other fault _ brings otherFlying cause leads =>
      have left : after.session.review = stage.session.abandoned.review := by
        rw [leads.reaches]
        rfl
      refine ⟨?_, fun _ => left.trans without⟩
      -- What can be shown fails no turn.
      intro bom building presents
      cases presents with
      | analysis shown stocked =>
          cases brings
          cases cause with
          | report _ raised =>
              rw [shown] at raised
              cases raised
  | @replies answer other value processed message _ otherFlying chat replied _ _ leads =>
      cases flying.symm.trans otherFlying
      have kept : after.session.review = stage.session.review := by
        rw [leads.reaches]
        rfl
      rw [Session.reviewWithout, chat, kept]
      exact ⟨fun _ building => absurd building Bool.false_ne_true, fun _ => rfl⟩
  | @analyses analysis other text message _ otherFlying building shown _ leads =>
      cases flying.symm.trans otherFlying
      have reviewed : after.session.review =
          if analysis.bom.lines.isEmpty then (.chat, none)
          else (.bomPreview, some analysis.bom) := by
        rw [leads.reaches]
        exact Session.reviewing_review _ analysis.bom
      rw [Session.reviewWithout, if_pos building, reviewed]
      refine ⟨?_, ?_⟩
      · intro bom _ presents
        cases presents with
        | analysis _ stocked => rw [if_neg (mt List.isEmpty_iff.1 stocked)]
      · intro nothing
        by_cases empty : analysis.bom.lines = []
        · rw [if_pos (List.isEmpty_iff.2 empty)]
        · exact absurd (.analysis shown empty) (nothing building analysis.bom)
  | cancels _ leads =>
      have left : after.session.review = stage.session.abandoned.review := by
        rw [leads.reaches]
        rfl
      refine ⟨?_, fun _ => left.trans without⟩
      intro bom _ presents
      cases presents

/-! ## Whole turns -/

/-- The acts of a turn that begins with a message, and the act that ended it, if
the turn had to wait for one. -/
inductive TakesTurn (observer : Observer σ) (stage : Stage σ)
    (context : TurnContext σ) (input : String) :
    List (SessionAct σ) → Option (SessionAct σ) → Prop
  | atOnce {message : ChatMessage}
      (ended : (stage.perform observer (.send context input)).1 = .answered message) :
      TakesTurn observer stage context input [.send context input] none
  | awaited {between : List (SessionAct σ)} {ending : SessionAct σ}
      (waits : (stage.perform observer (.send context input)).1 = .waiting)
      (tried : ∀ act ∈ between, act.endsTurn = false)
      (ends : ending.endsTurn = true) :
      TakesTurn observer stage context input
        (.send context input :: (between ++ [ending])) (some ending)

namespace TakesTurn

variable {observer : Observer σ} {stage : Stage σ} {context : TurnContext σ} {input : String}
  {course : List (SessionAct σ)} {ending? : Option (SessionAct σ)} {turn : Turn σ}

theorem idle_of_waiting
    {after : Stage σ} (moves : stage.Moves (.send context input) .waiting after)
    (next : turn = stage.session.nextTurn context (trimText input)) :
    stage.session.turn = none ∧ after.session = stage.session.opened turn := by
  cases moves with
  | stays quiet => cases quiet
  | waits taken other leads =>
      rw [next, ← other]
      exact ⟨taken.1, leads.reaches⟩

theorem idle_of_answered
    {after : Stage σ} {message : ChatMessage}
    (moves : stage.Moves (.send context input) (.answered message) after)
    (next : turn = stage.session.nextTurn context (trimText input)) :
    stage.session.turn = none ∧ after.session = (stage.session.opened turn).failed turn := by
  cases moves with
  | stays quiet => cases quiet
  | expires taken other _ leads =>
      rw [next, ← other]
      exact ⟨taken.1, leads.reaches⟩
  | fails brings => cases brings

/-- Up to its end a turn stays as it began. -/
theorem in_flight
    (taken : stage.TakesTurn observer context input course ending?)
    (next : turn = stage.session.nextTurn context (trimText input))
    {begun rest : List (SessionAct σ)} (split : course = begun ++ rest)
    (started : begun ≠ []) (unfinished : rest ≠ []) :
    (stage.run observer begun).session = stage.session.opened turn := by
  cases begun with
  | nil => exact absurd rfl started
  | cons first tail =>
      rw [List.cons_append] at split
      cases taken with
      | atOnce ended =>
          have nothing := (List.cons.inj split).2
          exact absurd (List.append_eq_nil_iff.1 nothing.symm).2 unfinished
      | @awaited between ending waits tried ends =>
          obtain ⟨same, remaining⟩ := List.cons.inj split
          subst same
          have moves := perform_moves observer stage (.send context input)
          rw [waits] at moves
          obtain ⟨_, begins⟩ := idle_of_waiting moves next
          have flying := congrArg Session.turn begins
          rw [Session.opened_turn] at flying
          -- What was tried up to here comes before the last act of the course.
          obtain ⟨later, last, ended⟩ := (List.eq_nil_or_concat rest).resolve_left unfinished
          rw [ended, List.concat_eq_append, ← List.append_assoc] at remaining
          have earlier := (List.append_inj' remaining rfl).1
          have untouched := run_in_flight flying
            (fun act member => tried act (earlier ▸ List.mem_append_left later member)) observer
          rw [run_cons, untouched, begins]

/-- How the session stands when the turn has come to its end. -/
theorem settles
    (taken : stage.TakesTurn observer context input course ending?)
    (next : turn = stage.session.nextTurn context (trimText input))
    (sound : stage.session.Sound) :
    stage.session.turn = none ∧ (stage.run observer course).session.turn = none ∧
      (∀ ending bom, turn.building = true → ending? = some ending → ending.Presents bom →
        (stage.run observer course).session.review = (.bomPreview, some bom)) ∧
      ((turn.building = true → ∀ ending bom, ending? = some ending → ¬ ending.Presents bom) →
        (stage.run observer course).session.review = stage.session.reviewWithout turn) := by
  have classified : turn.building = Message.isBuildingRequest turn.message := by
    rw [next]
    exact Session.nextTurn_classified stage.session context (trimText input)
  have moves := perform_moves observer stage (.send context input)
  cases taken with
  | atOnce ended =>
      rw [ended] at moves
      obtain ⟨idle, fails⟩ := idle_of_answered moves next
      have dropped := (sound.opened idle classified).abandoned_review (Session.opened_turn _ _)
      rw [Session.opened_reviewWithout] at dropped
      rw [run_cons, run_nil, fails]
      refine ⟨idle, rfl, ?_, fun _ => dropped⟩
      intro ending bom _ none
      cases none
  | @awaited between ending waits tried ends =>
      rw [waits] at moves
      obtain ⟨idle, begins⟩ := idle_of_waiting moves next
      have opened := sound.opened idle classified
      rw [← begins] at opened
      have flying := congrArg Session.turn begins
      rw [Session.opened_turn] at flying
      have carried := not_quiet_of_ending flying ends observer
      have last := perform_moves observer (stage.perform observer (.send context input)).2 ending
      obtain ⟨presented, without⟩ := last.review_of_ending opened flying ends carried
      rw [begins, Session.opened_reviewWithout] at without
      rw [run_cons, run_append, run_in_flight flying tried observer, run_cons, run_nil]
      refine ⟨idle, last.idle_of_ending ends carried, ?_, ?_⟩
      · intro act bom building isEnding presents
        cases isEnding
        exact presented bom building presents
      · intro nothing
        exact without fun building bom => nothing building ending bom rfl

end TakesTurn

/-- From every state that a run reaches, every turn begins and ends with no turn
in flight.  A chat turn leaves the mode and the bill of materials as they were.  A
building turn drops an earlier bill of materials from its start on; it ends in the
review of the bill of materials that its end presents, and in chat with nothing to
review when its end presents none. -/
theorem run_turn_settles
    (observer : Observer σ) (limits : SessionLimits) (bench : Bench σ)
    (acts : List (SessionAct σ)) (context : TurnContext σ) (input : String)
    (course : List (SessionAct σ)) (ending? : Option (SessionAct σ)) :
    let before := (ofSession (.fresh limits) bench).run observer acts
    let after := before.run observer course
    before.TakesTurn observer context input course ending? →
      before.session.turn = none ∧ after.session.turn = none ∧
        (Message.isBuildingRequest (trimText input) = false →
          after.session.review = before.session.review) ∧
        (Message.isBuildingRequest (trimText input) = true →
          (∀ begun rest, course = begun ++ rest → begun ≠ [] → rest ≠ [] →
              (before.run observer begun).session.review = (.building, none)) ∧
            (∀ ending bom, ending? = some ending → ending.Presents bom →
              after.session.review = (.bomPreview, some bom)) ∧
            ((∀ ending bom, ending? = some ending → ¬ ending.Presents bom) →
              after.session.review = (.chat, none))) := by
  intro before after taken
  have sound : before.session.Sound := run_sound observer limits bench acts
  obtain ⟨turn, next, classified⟩ : ∃ turn,
      turn = before.session.nextTurn context (trimText input) ∧
        turn.building = Message.isBuildingRequest (trimText input) :=
    ⟨_, rfl, by simp only [Session.nextTurn]⟩
  obtain ⟨idle, landed, presented, without⟩ := taken.settles next sound
  unfold Session.reviewWithout at without
  rw [← classified]
  refine ⟨idle, landed, ?_, ?_⟩
  · intro chat
    rw [chat] at without
    exact without fun building => absurd building Bool.false_ne_true
  · intro building
    rw [if_pos building] at without
    refine ⟨?_, fun ending bom => presented ending bom building, fun none => without fun _ => none⟩
    intro begun rest split started unfinished
    rw [taken.in_flight next split started unfinished, Session.opened_review, if_pos building]

/-- An analysis that recommends two doors. -/
def twoDoors : Analysis :=
  ⟨.dict [], .dict [], ⟨[⟨.text "D-1", .text "Door", .int 2, .int 1, .text ""⟩], .null⟩⟩

theorem takes_doorRequest (bench : Bench σ) :
    (ofSession (.fresh .standard) bench).session.Takes "I need a door" :=
  ⟨rfl, by decide +kernel, rfl⟩

/-- A request for doors ends in the review of the doors, although it was tried to
dismiss them before they were there. -/
theorem run_turn_settles_twoDoors :
    let fresh : Stage Unit := ofSession (.fresh .standard) ⟨(), .nowhere, []⟩
    let context : TurnContext Unit := ⟨.list [], .idle, .null⟩
    let ending : SessionAct Unit := .answer (.analysis twoDoors)
    let course := [.send context "I need a door", .dismissBom, ending]
    fresh.TakesTurn .none context "I need a door" course (some ending) ∧
      (fresh.run .none course).session.review = (.bomPreview, some twoDoors.bom) := by
  intro fresh context ending course
  have waits := waits_of_taken (takes_doorRequest ⟨(), .nowhere, []⟩) rfl .none context
  have tried : ∀ act : SessionAct Unit, act ∈ [.dismissBom] → act.endsTurn = false := by
    intro act member
    rw [List.mem_singleton.1 member]
    rfl
  have taken : fresh.TakesTurn .none context "I need a door" course (some ending) :=
    .awaited waits tried rfl
  have presents : ending.Presents twoDoors.bom := .analysis (by rfl) (by decide)
  have settled := run_turn_settles .none .standard ⟨(), .nowhere, []⟩ [] context "I need a door"
    course (some ending) taken
  exact ⟨taken, (settled.2.2.2 (by decide +kernel)).2.1 ending twoDoors.bom rfl presents⟩

end Stage

end QuoteDesk
