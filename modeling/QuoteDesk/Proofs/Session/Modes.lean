import QuoteDesk.Proofs.Session.Chronicle

/-!
# Modes, reviews and flights

Along every run the mode tells what the session is about: a bill of materials,
never an empty one, waits exactly in the review, and a building is analysed
exactly while a turn about one is in flight.
-/

namespace QuoteDesk

open Text

variable {σ : Type}

/-- What may wait for review in a mode. -/
inductive SessionMode.Reviews : SessionMode → Option Bom → Prop where
  | chat : SessionMode.chat.Reviews none
  | building : SessionMode.building.Reviews none
  | bomPreview {bom : Bom} (stocked : bom.lines ≠ []) : SessionMode.bomPreview.Reviews (some bom)

namespace SessionMode.Reviews

variable {mode : SessionMode} {pending : Option Bom}

theorem bomPreview_iff (reviews : mode.Reviews pending) :
    mode = .bomPreview ↔ ∃ bom, pending = some bom := by
  cases reviews with
  | chat => simp
  | building => simp
  | bomPreview => simp

theorem lines_ne_nil
    {bom : Bom}
    (reviews : mode.Reviews pending) (waiting : pending = some bom) : bom.lines ≠ [] := by
  cases reviews with
  | chat => cases waiting
  | building => cases waiting
  | bomPreview stocked =>
      cases waiting
      exact stocked

end SessionMode.Reviews

namespace Session

/-! ## Sound sessions -/

/-- The mode fits what waits for review and the turn in flight. -/
structure Sound (session : Session σ) : Prop where
  reviews : session.mode.Reviews session.pending
  analyses : session.mode = .building ↔ ∃ turn, session.turn = some turn ∧ turn.building = true
  classified : ∀ turn, session.turn = some turn →
    turn.building = Message.isBuildingRequest turn.message

theorem nextTurn_classified
    (session : Session σ) (context : TurnContext σ) (message : String) :
    (session.nextTurn context message).building =
      Message.isBuildingRequest (session.nextTurn context message).message := by
  simp only [nextTurn]

theorem fresh_sound (limits : SessionLimits) : (fresh limits : Session σ).Sound where
  reviews := .chat
  analyses := by simp [fresh]
  classified := by
    intro turn flying
    cases flying

theorem sound_of_idle
    {session : Session σ}
    (idle : session.turn = none) (reviews : session.mode.Reviews session.pending)
    (left : session.mode ≠ .building) : session.Sound where
  reviews := reviews
  analyses := by simp [idle, left]
  classified := by
    intro turn flying
    rw [idle] at flying
    cases flying

theorem reviewing_landed_sound (session : Session σ) (bom : Bom) :
    (session.reviewing bom).landed.Sound := by
  unfold reviewing
  by_cases nothing : bom.lines.isEmpty
  · rw [if_pos nothing]
    exact sound_of_idle rfl .chat SessionMode.noConfusion
  · rw [if_neg nothing]
    have stocked : bom.lines ≠ [] := by
      intro empty
      exact nothing (List.isEmpty_iff.2 empty)
    exact sound_of_idle rfl (.bomPreview stocked) SessionMode.noConfusion

namespace Sound

variable {session : Session σ}

theorem mode_ne_building_of_idle
    (sound : session.Sound) (idle : session.turn = none) : session.mode ≠ .building := by
  intro building
  obtain ⟨turn, flying, _⟩ := sound.analyses.1 building
  rw [idle] at flying
  cases flying

theorem mode_ne_building_of_chat
    {turn : Turn σ}
    (sound : session.Sound) (flying : session.turn = some turn) (chat : turn.building = false) :
    session.mode ≠ .building := by
  intro building
  obtain ⟨other, otherFlying, otherBuilding⟩ := sound.analyses.1 building
  rw [flying] at otherFlying
  cases otherFlying
  rw [chat] at otherBuilding
  cases otherBuilding

theorem opened
    {turn : Turn σ}
    (sound : session.Sound) (idle : session.turn = none)
    (classified : turn.building = Message.isBuildingRequest turn.message) :
    (session.opened turn).Sound := by
  have kept : ∀ other, (session.opened turn).turn = some other →
      other.building = Message.isBuildingRequest other.message := by
    intro other flying
    rw [opened_turn] at flying
    cases flying
    exact classified
  unfold Session.opened at *
  by_cases building : turn.building
  · rw [if_pos building] at *
    exact ⟨.building, ⟨fun _ => ⟨turn, rfl, building⟩, fun _ => rfl⟩, kept⟩
  · rw [if_neg building] at *
    -- A chat turn keeps the mode, and nothing is analysed before it begins.
    refine ⟨sound.reviews, ⟨?_, ?_⟩, kept⟩
    · intro analysing
      exact absurd analysing (sound.mode_ne_building_of_idle idle)
    · rintro ⟨other, flying, otherBuilding⟩
      cases flying
      exact absurd otherBuilding building

theorem abandoned_landed (sound : session.Sound) : session.abandoned.landed.Sound := by
  unfold Session.abandoned
  by_cases building : session.mode = .building
  · rw [if_pos building]
    exact sound_of_idle rfl .chat SessionMode.noConfusion
  · rw [if_neg building]
    exact sound_of_idle rfl sound.reviews building

theorem failed (sound : session.Sound) (turn : Turn σ) : (session.failed turn).Sound := by
  have landed := sound.abandoned_landed
  exact ⟨landed.reviews, landed.analyses, landed.classified⟩

theorem replied
    {turn : Turn σ}
    (sound : session.Sound) (flying : session.turn = some turn) (chat : turn.building = false)
    (message : ChatMessage) : (session.saying message).landed.Sound := by
  have left := sound.mode_ne_building_of_chat flying chat
  exact sound_of_idle rfl sound.reviews left

/-- One act keeps a session sound. -/
theorem of_moves
    {stage after : Stage σ} {act : SessionAct σ} {outcome : StepOutcome}
    (sound : stage.session.Sound)
    (moves : stage.Moves act outcome after) : after.session.Sound := by
  cases moves with
  | stays _ _ leads =>
      rw [leads.reaches]
      exact sound
  | @waits context input turn _ taken next leads =>
      have classified : turn.building = Message.isBuildingRequest turn.message := by
        rw [next]
        exact nextTurn_classified stage.session context (trimText input)
      rw [leads.reaches]
      exact sound.opened taken.1 classified
  | @expires context input turn _ _ taken next _ leads =>
      have classified : turn.building = Message.isBuildingRequest turn.message := by
        rw [next]
        exact nextTurn_classified stage.session context (trimText input)
      rw [leads.reaches]
      exact (sound.opened taken.1 classified).failed turn
  | fails _ _ _ leads =>
      rw [leads.reaches]
      exact sound.failed _
  | replies flying chat _ _ _ leads =>
      rw [leads.reaches]
      exact sound.replied flying chat _
  | analyses _ _ _ _ leads =>
      rw [leads.reaches]
      exact reviewing_landed_sound _ _
  | cancels _ leads =>
      rw [leads.reaches]
      exact sound.abandoned_landed
  | adds idle _ _ _ _ leads =>
      rw [leads.reaches]
      exact sound_of_idle idle .chat SessionMode.noConfusion
  | dismisses idle leads =>
      rw [leads.reaches]
      exact sound_of_idle idle .chat SessionMode.noConfusion

end Sound

end Session

namespace Stage

/-- A session is sound after every run. -/
theorem run_sound
    (observer : Observer σ) (limits : SessionLimits) (bench : Bench σ)
    (acts : List (SessionAct σ)) :
    ((ofSession (.fresh limits) bench).run observer acts).session.Sound := by
  refine run_induction (fun stage _ => stage.session.Sound) ?_ Chronicle.blank
    (Session.fresh_sound limits) acts
  intro stage _ act sound
  exact sound.of_moves (perform_moves observer stage act)

/-- In every state of every run the mode is the one of what waits and of what is
in flight: a bill of materials, never an empty one, waits exactly in the review;
a building is analysed exactly while a message about one waits for its answer; and
the session is busy exactly while any message does. -/
theorem run_mode_tells_review_and_flight
    (observer : Observer σ) (limits : SessionLimits) (bench : Bench σ)
    (acts : List (SessionAct σ)) :
    let start := ofSession (.fresh limits) bench
    let session := (start.run observer acts).session
    let chronicle := Chronicle.ofOccurrences (start.occurrences observer acts)
    (session.mode = .bomPreview ↔ ∃ bom, session.pending = some bom) ∧
      (∀ bom, session.pending = some bom → bom.lines ≠ []) ∧
      (session.mode = .building ↔
        ∃ message, chronicle.inFlight = some message ∧
          Message.isBuildingRequest message = true) ∧
      (session.isBusy = true ↔ ∃ message, chronicle.inFlight = some message) := by
  intro start session chronicle
  have sound : session.Sound := run_sound observer limits bench acts
  have agrees : chronicle.Agrees session := run_agrees observer limits bench acts
  refine ⟨sound.reviews.bomPreview_iff, ?_, ?_, ?_⟩
  · intro bom waiting
    exact sound.reviews.lines_ne_nil waiting
  · rw [sound.analyses, agrees.flight]
    constructor
    · rintro ⟨turn, flying, building⟩
      refine ⟨turn.message, ?_, ?_⟩
      · rw [flying, Option.map_some]
      · rw [← sound.classified turn flying]
        exact building
    · rintro ⟨message, flight, building⟩
      obtain ⟨turn, flying, same⟩ := Option.map_eq_some_iff.1 flight
      refine ⟨turn, flying, ?_⟩
      rw [sound.classified turn flying, same]
      exact building
  · rw [agrees.flight, Session.isBusy, Option.isSome_iff_exists]
    constructor
    · rintro ⟨turn, flying⟩
      exact ⟨turn.message, by rw [flying, Option.map_some]⟩
    · rintro ⟨message, flight⟩
      obtain ⟨turn, flying, _⟩ := Option.map_eq_some_iff.1 flight
      exact ⟨turn, flying⟩

end Stage

end QuoteDesk
