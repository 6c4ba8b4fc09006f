import QuoteDesk.Proofs.Session.Steps

/-!
# Acts in vain

A call in vain is refused or ignored: any call while a turn is in flight, a
message that is blank, too long or marked with scripts, and a review of nothing.
It changes nothing at all, so a run without its calls in vain is the same run.
-/

namespace QuoteDesk

open Text

variable {σ : Type}

namespace Session

/-- A message has more characters than the bound allows. -/
def exceeds (limits : SessionLimits) (message : String) : Bool :=
  match (Value.int message.length).greater limits.maxChars with
  | .ok longer => longer
  | .error _ => false

/-- A call that a session refuses or ignores. -/
def isVain (session : Session σ) : SessionAct σ → Bool
  | .send _ input =>
      session.isBusy || (trimText input).isEmpty || exceeds session.limits (trimText input) ||
        Message.hasScriptMark (trimText input)
  | .addBom _ => session.isBusy || session.pending.isNone
  | .dismissBom => session.isBusy || (session.mode = .chat && session.pending.isNone)
  | .answer _ => false
  | .timeOut => false
  | .cancel => false

end Session

def Occurrence.isVain (occurred : Occurrence σ) : Bool :=
  occurred.before.session.isVain occurred.act

namespace Session

theorem checkMessage_of_exceeds
    {limits : SessionLimits} {message : String} (longer : exceeds limits message = true) :
    checkMessage limits message ≠ .ok () := by
  intro passed
  unfold exceeds at longer
  unfold checkMessage at passed
  cases compared : (Value.int message.length).greater limits.maxChars with
  | error fault =>
      rw [compared] at longer
      cases longer
  | ok result =>
      rw [compared] at longer passed
      cases longer
      cases passed

theorem checkMessage_of_scriptMark
    {limits : SessionLimits} {message : String} (marked : Message.hasScriptMark message = true) :
    checkMessage limits message ≠ .ok () := by
  intro passed
  unfold checkMessage at passed
  rw [marked] at passed
  -- The marks refuse the message whether or not its length can be compared.
  cases compared : (Value.int message.length).greater limits.maxChars with
  | error fault =>
      rw [compared] at passed
      cases passed
  | ok result =>
      rw [compared] at passed
      cases result <;> cases passed

theorem not_takes_of_isVain
    {session : Session σ} {context : TurnContext σ} {input : String}
    (vain : session.isVain (.send context input) = true) : ¬ session.Takes input := by
  rintro ⟨idle, inked, passed⟩
  simp only [isVain, isBusy, idle, inked, Option.isSome_none, Bool.false_or,
    Bool.or_eq_true] at vain
  rcases vain with longer | marked
  · exact checkMessage_of_exceeds longer passed
  · exact checkMessage_of_scriptMark marked passed

end Session

namespace Stage

/-! ## One call in vain -/

theorem addBom_of_isVain
    {stage : Stage σ} {context : TurnContext σ}
    (vain : stage.session.isVain (.addBom context) = true) (observer : Observer σ) :
    (stage.addBom observer context).1.Quiet ∧ (stage.addBom observer context).2 = stage := by
  unfold Stage.addBom
  by_cases busy : stage.session.isBusy
  · rw [if_pos busy]
    exact ⟨.refused _, rfl⟩
  · rw [if_neg busy]
    have nothing : stage.session.pending = none := by
      simpa [Session.isVain, busy] using vain
    rw [nothing]
    exact ⟨.refused _, rfl⟩

theorem dismissBom_of_isVain
    {stage : Stage σ}
    (vain : stage.session.isVain .dismissBom = true) (observer : Observer σ) :
    (stage.dismissBom observer).1.Quiet ∧ (stage.dismissBom observer).2 = stage := by
  unfold Stage.dismissBom
  by_cases busy : stage.session.isBusy
  · rw [if_pos busy]
    exact ⟨.refused _, rfl⟩
  · rw [if_neg busy]
    have nothing : (stage.session.pending.isNone && stage.session.mode = .chat) = true := by
      rw [Bool.and_comm]
      simpa [Session.isVain, busy] using vain
    rw [if_pos nothing]
    exact ⟨.ignored, rfl⟩

/-- A vain act is refused or ignored and changes nothing. -/
theorem perform_of_isVain
    {stage : Stage σ} {act : SessionAct σ}
    (vain : stage.session.isVain act = true) (observer : Observer σ) :
    (stage.perform observer act).1.Quiet ∧ (stage.perform observer act).2 = stage := by
  cases act with
  | send context input =>
      exact begin_of_untaken (Session.not_takes_of_isVain vain) observer context
  | addBom context => exact addBom_of_isVain vain observer
  | dismissBom => exact dismissBom_of_isVain vain observer
  | answer answer => cases vain
  | timeOut => cases vain
  | cancel => cases vain

/-! ## Runs without calls in vain -/

/-- The acts of a run without those that are in vain where they occur. -/
def withoutVain (observer : Observer σ) (stage : Stage σ) :
    List (SessionAct σ) → List (SessionAct σ)
  | [] => []
  | act :: later =>
      if stage.session.isVain act then
        withoutVain observer (stage.perform observer act).2 later
      else act :: withoutVain observer (stage.perform observer act).2 later

/-- A run without its vain acts comes to the same stage. -/
theorem run_withoutVain
    (observer : Observer σ) (stage : Stage σ) (acts : List (SessionAct σ)) :
    stage.run observer (stage.withoutVain observer acts) = stage.run observer acts := by
  induction acts generalizing stage with
  | nil => rfl
  | cons act later inductionHypothesis =>
      rw [withoutVain, run_cons]
      by_cases vain : stage.session.isVain act
      · rw [if_pos vain, (perform_of_isVain vain observer).2]
        exact inductionHypothesis stage
      · rw [if_neg vain, run_cons]
        exact inductionHypothesis (stage.perform observer act).2

theorem occurrences_withoutVain
    (observer : Observer σ) (stage : Stage σ) (acts : List (SessionAct σ)) :
    stage.occurrences observer (stage.withoutVain observer acts) =
      (stage.occurrences observer acts).filter fun occurred => !occurred.isVain := by
  induction acts generalizing stage with
  | nil => rfl
  | cons act later inductionHypothesis =>
      have head : (stage.occurrence observer act).isVain = stage.session.isVain act := rfl
      rw [withoutVain, occurrences_cons, List.filter_cons, head]
      by_cases vain : stage.session.isVain act
      · rw [if_pos vain, vain, (perform_of_isVain vain observer).2]
        exact inductionHypothesis stage
      · rw [if_neg vain, occurrences_cons, inductionHypothesis]
        rw [Bool.not_eq_true] at vain
        rw [vain]
        rfl

/-- At every place of every run a call in vain is refused or ignored and leaves
the stage as it is.  The run without its calls in vain ends at the same stage: the
same history, mode, bill of materials, turn in flight, events, requests,
diagnostics and records, and the same state behind the quote, in which its calls
may be noted.  The other acts occur as they did, at the same stages and with the
same outcomes. -/
theorem run_unchanged_by_vain_calls
    (observer : Observer σ) (stage : Stage σ) (acts : List (SessionAct σ)) :
    (∀ occurred ∈ stage.occurrences observer acts,
        occurred.isVain = true →
          occurred.outcome.Quiet ∧ occurred.after = occurred.before) ∧
      stage.run observer (stage.withoutVain observer acts) = stage.run observer acts ∧
      stage.occurrences observer (stage.withoutVain observer acts) =
        (stage.occurrences observer acts).filter fun occurred => !occurred.isVain := by
  refine ⟨?_, run_withoutVain observer stage acts, occurrences_withoutVain observer stage acts⟩
  intro occurred member vain
  obtain ⟨before, act, same⟩ := exists_of_mem_occurrences member
  subst same
  exact perform_of_isVain vain observer

end Stage

end QuoteDesk
