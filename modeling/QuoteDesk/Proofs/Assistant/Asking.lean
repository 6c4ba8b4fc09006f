import QuoteDesk.Assistant
import QuoteDesk.Proofs.Number.Comparing
import QuoteDesk.Proofs.Results

/-!
# Asking until it is settled

With a lawful policy a request goes out again and again until an attempt ends in anything but
a passing failure, or the attempts are used up.  Only the last attempt counts: the answer is
the text of the first choice that it gave, and a failure is the one that it ended in.  The
policy of the program is lawful.
-/

namespace QuoteDesk

open Number

namespace Client

/-! ## Answers of the model -/

/-- A choice in an answer: what it says, if it says anything. -/
structure ChatChoice where
  value : Value
  content : Option String
  tells : attributeOf (attributeOf value "message") "content" = content.elim .null .text

/-- An answer: its choices are a list, or there are none at all. -/
structure ChatAnswer where
  value : Value
  choices : List ChatChoice
  lists : attributeOf value "choices" = .list (choices.map ChatChoice.value) ∨
    choices = [] ∧ attributeOf value "choices" = .null

/-- The fault of an answer without choices. -/
def noChoices : Fault :=
  .badValue "Chat completion returned no choices"

/-- The text of the first choice. -/
def ChatAnswer.text (answer : ChatAnswer) : Except Fault String :=
  match answer.choices with
  | [] => .error noChoices
  | first :: _ => .ok (first.content.getD "")

/-- The text of a content as the reader takes it: none is an empty text. -/
theorem display_content (content : Option String) :
    (if (content.elim Value.null Value.text).isTruthy then
        (content.elim Value.null Value.text).display.mapError Fault.number
      else .ok "") = .ok (content.getD "") := by
  cases content with
  | none => rfl
  | some text =>
      by_cases empty : text = ""
      · subst empty
        rfl
      · have present : (Value.text text).isTruthy = true := by
          simp [Value.isTruthy, empty]
        exact if_pos present

/-- The text that is read off an answer is the one that its first choice says. -/
theorem responseText_value (answer : ChatAnswer) : responseText answer.value = answer.text := by
  unfold responseText ChatAnswer.text
  cases known : answer.choices with
  | nil =>
      rcases answer.lists with listed | ⟨-, absent⟩
      · rw [listed, known]
        rfl
      · rw [absent]
        rfl
  | cons first rest =>
      rcases answer.lists with listed | ⟨none, -⟩
      · have shown := display_content first.content
        rw [← first.tells] at shown
        rw [listed, known]
        exact shown
      · rw [none] at known
        cases known

/-! ## Policies -/

/-- A policy that asks again after passing failures and after nothing else, as long as attempts
are left, and can tell the waits between binary numbers. -/
structure RetryPolicy.Lawful (policy : RetryPolicy) : Prop where
  lasting : ∀ {τ : Type} {transport : Transport τ} {request : Entries} {state next : τ}
    {outcome : Except Fault Value} (wait : Nat → Except Fault Binary64) (remaining attempt : Nat),
    transport.send state request = (outcome, next) →
      (∀ fault, outcome = .error fault → fault.isPassing = false) →
        policy.ask transport wait request remaining attempt state = (outcome, [], next)
  passing : ∀ {τ : Type} {transport : Transport τ} {request : Entries} {state next : τ}
    {fault : Fault} {pause : Binary64} {wait : Nat → Except Fault Binary64} {attempt : Nat}
    (remaining : Nat), transport.send state request = (.error fault, next) →
      fault.isPassing = true → wait attempt = .ok pause →
        policy.ask transport wait request remaining attempt state =
          match remaining with
          | 0 => (.error fault, [], next)
          | fewer + 1 =>
            let rest := policy.ask transport wait request fewer (attempt + 1) next
            (rest.1, pause :: rest.2.1, rest.2.2)
  waits : ∀ least greatest attempt,
    ∃ pause, policy.waitAfter (.float least) greatest attempt = .ok pause

/-- Between binary bounds every wait is a binary number. -/
theorem exists_waitAfter (least greatest : Binary64) (attempt : Nat) :
    ∃ pause, waitAfter (.float least) greatest attempt = .ok pause := by
  have grows : grown (.float least) (attempt - 1) = .ok (.float (least.scaleUp (attempt - 1))) :=
    rfl
  obtain ⟨bounded, bound, isFloat⟩ := Value.exists_minimum
    (Value.comparable_float (least.scaleUp (attempt - 1))) (Value.comparable_float greatest)
  obtain ⟨pause, isPause⟩ : ∃ pause, bounded = .float pause := by
    rcases isFloat with same | same
    · exact ⟨_, same⟩
    · exact ⟨_, same⟩
  obtain ⟨raised, raise, isRaised⟩ :=
    Value.exists_maximum (Value.comparable_int 0) (isPause ▸ Value.comparable_float pause)
  have numeral : ∃ result, raised.toBinary64 = .ok result := by
    rcases isRaised with same | same
    · exact ⟨Binary64.ofInt 0, by rw [same]; rfl⟩
    · exact ⟨pause, by rw [same, isPause]; rfl⟩
  obtain ⟨result, told⟩ := numeral
  refine ⟨result, ?_⟩
  rw [waitAfter, grows]
  change (do
    let bounded ← (Value.float (least.scaleUp (attempt - 1))).minimum (.float greatest)
    (← (Value.int 0).maximum bounded).toBinary64) = .ok result
  rw [bound]
  change (do (← (Value.int 0).maximum bounded).toBinary64) = .ok result
  rw [raise]
  exact told

/-- The policy of the program is lawful. -/
theorem RetryPolicy.lawful_doubling : RetryPolicy.doubling.Lawful where
  lasting {τ transport request state next outcome} wait remaining attempt sent helpless := by
    change Client.ask transport wait request remaining attempt state = _
    rw [Client.ask.eq_def, sent]
    cases outcome with
    | ok response => rfl
    | error fault =>
        dsimp only
        rw [helpless fault rfl, if_neg Bool.false_ne_true]
  passing {τ transport request state next fault pause wait attempt} remaining sent passes told := by
    change Client.ask transport wait request remaining attempt state = _
    rw [Client.ask.eq_def, sent]
    dsimp only
    rw [if_pos passes, told]
    cases remaining <;> rfl
  waits := exists_waitAfter

/-! ## Attempts -/

/-- What a transport answers to the first request, to the second, and so on. -/
abbrev Script := Nat → Except Fault ChatAnswer

/-- A transport that follows a script and keeps the requests that it was sent. -/
def scripted (script : Script) : Transport (List Entries) where
  send sent request := ((script sent.length).map ChatAnswer.value, sent ++ [request])

/-- An attempt after which asking again may help. -/
def Passing (outcome : Except Fault ChatAnswer) : Prop :=
  ∃ fault, outcome = .error fault ∧ fault.isPassing = true

/-- The last attempt of a script, counted from zero: the first one that does not end in a
passing failure, or the one with which the attempts are used up. -/
structure Ends (script : Script) (limit last : Nat) : Prop where
  before : ∀ earlier < last, Passing (script earlier)
  within : last < limit
  stops : ¬ Passing (script last) ∨ last + 1 = limit

theorem Ends.unique
    {script : Script} {limit last other : Nat} (ends : Ends script limit last)
    (otherEnds : Ends script limit other) : other = last := by
  rcases Nat.lt_trichotomy other last with less | same | greater
  · rcases otherEnds.stops with stops | used
    · exact absurd (ends.before other less) stops
    · have := ends.within
      omega
  · exact same
  · rcases ends.stops with stops | used
    · exact absurd (otherEnds.before last greater) stops
    · have := otherEnds.within
      omega

/-- A script whose first attempt passes ends where the rest of it does. -/
theorem Ends.next
    {script : Script} {limit last : Nat} (passing : Passing (script 0))
    (ends : Ends (fun count => script (count + 1)) limit last) :
    Ends script (limit + 1) (last + 1) := by
  refine ⟨?_, Nat.succ_lt_succ ends.within, ends.stops.imp_right (congrArg (· + 1))⟩
  intro earlier less
  cases earlier with
  | zero => exact passing
  | succ earlier => exact ends.before earlier (Nat.lt_of_succ_lt_succ less)

theorem ends_zero
    {script : Script} {limit : Nat} (stops : ¬ Passing (script 0) ∨ limit = 0) :
    Ends script (limit + 1) 0 :=
  ⟨fun _ less => absurd less (Nat.not_lt_zero _), Nat.succ_pos limit,
    stops.imp_right fun none => by rw [none]⟩

theorem Ends.tail
    {script : Script} {limit last : Nat} (ends : Ends script (limit + 1) (last + 1)) :
    Ends (fun count => script (count + 1)) limit last where
  before earlier less := ends.before (earlier + 1) (Nat.succ_lt_succ less)
  within := Nat.lt_of_succ_lt_succ ends.within
  stops := ends.stops.imp_right Nat.succ.inj

/-- Every script ends within the attempts that are allowed. -/
theorem exists_ends (script : Script) (limit : Nat) : ∃ last, Ends script (limit + 1) last := by
  induction limit generalizing script with
  | zero => exact ⟨0, ends_zero (.inr rfl)⟩
  | succ limit inductionHypothesis =>
      by_cases passing : Passing (script 0)
      · obtain ⟨last, ends⟩ := inductionHypothesis fun count => script (count + 1)
        exact ⟨last + 1, ends.next passing⟩
      · exact ⟨0, ends_zero (.inl passing)⟩

section Asking

variable {policy : RetryPolicy} {script : Script} {wait : Nat → Except Fault Binary64}

/-- What a script answers when some requests have been sent. -/
def Script.behind (script : Script) (sent : Nat) : Script :=
  fun count => script (sent + count)

section Policy

variable (lawful : policy.Lawful)
include lawful

theorem ask_of_lasting
    (request : Entries) (remaining attempt : Nat) {sent : List Entries}
    (lasting : ¬ Passing (script sent.length)) :
    policy.ask (scripted script) wait request remaining attempt sent =
      ((script sent.length).map ChatAnswer.value, [], sent ++ [request]) := by
  refine lawful.lasting wait remaining attempt rfl fun fault failed => ?_
  cases outcome : script sent.length with
  | ok answer =>
      rw [outcome] at failed
      cases failed
  | error other =>
      rw [outcome] at failed
      cases failed
      exact Bool.eq_false_iff.mpr fun passing => lasting ⟨fault, outcome, passing⟩

theorem ask_of_passing
    (request : Entries) (remaining attempt : Nat) {sent : List Entries}
    (passing : Passing (script sent.length)) {pause : Binary64} (told : wait attempt = .ok pause) :
    policy.ask (scripted script) wait request remaining attempt sent =
      match remaining with
      | 0 => ((script sent.length).map ChatAnswer.value, [], sent ++ [request])
      | fewer + 1 =>
        let next :=
          policy.ask (scripted script) wait request fewer (attempt + 1) (sent ++ [request])
        (next.1, pause :: next.2.1, next.2.2) := by
  obtain ⟨fault, outcome, passes⟩ := passing
  have failed : (scripted script).send sent request = (.error fault, sent ++ [request]) := by
    change ((script sent.length).map ChatAnswer.value, sent ++ [request]) = _
    rw [outcome]
    rfl
  rw [lawful.passing remaining failed passes told, outcome]
  rfl

end Policy

theorem Script.behind_succ (script : Script) (sent : List Entries) (request : Entries) :
    script.behind (sent ++ [request]).length =
      fun count => script.behind sent.length (count + 1) := by
  funext count
  rw [Script.behind, Script.behind, List.length_append, List.length_singleton]
  congr 1
  omega

/-- A request is sent until the script ends, and what the last attempt gives is the
outcome. -/
theorem ask_of_ends
    (lawful : policy.Lawful) (paced : ∀ attempt, ∃ pause, wait attempt = .ok pause)
    (request : Entries)
    {remaining last : Nat} {sent : List Entries}
    (ends : Ends (script.behind sent.length) (remaining + 1) last) (attempt : Nat) :
    (policy.ask (scripted script) wait request remaining attempt sent).1 =
        (script.behind sent.length last).map ChatAnswer.value ∧
      (policy.ask (scripted script) wait request remaining attempt sent).2.2 =
        sent ++ List.replicate (last + 1) request := by
  induction last generalizing remaining attempt sent with
  | zero =>
      rcases ends.stops with lasting | used
      · rw [ask_of_lasting lawful request remaining attempt lasting]
        exact ⟨rfl, rfl⟩
      · obtain rfl : remaining = 0 := (Nat.succ.inj used).symm
        by_cases passing : Passing (script sent.length)
        · obtain ⟨pause, told⟩ := paced attempt
          rw [ask_of_passing lawful request 0 attempt passing told]
          exact ⟨rfl, rfl⟩
        · rw [ask_of_lasting lawful request 0 attempt passing]
          exact ⟨rfl, rfl⟩
  | succ last inductionHypothesis =>
      obtain ⟨fewer, rfl⟩ := Nat.exists_eq_succ_of_ne_zero
        (Nat.pos_iff_ne_zero.mp (Nat.zero_lt_of_lt (Nat.lt_of_succ_lt_succ ends.within)))
      have passing : Passing (script sent.length) := ends.before 0 (Nat.succ_pos last)
      obtain ⟨pause, told⟩ := paced attempt
      -- One request more has been sent: the script of what follows is one shorter.
      have rest := ends.tail
      rw [← Script.behind_succ script sent request] at rest
      obtain ⟨outcome, state⟩ := inductionHypothesis rest (attempt + 1)
      rw [Script.behind_succ] at outcome
      rw [ask_of_passing lawful request (fewer + 1) attempt passing told]
      refine ⟨outcome, ?_⟩
      dsimp only
      rw [state, List.append_assoc, List.singleton_append, ← List.replicate_succ]

end Asking

/-! ## Settings -/

/-- A policy can tell the waits between attempts. -/
def RetryPolicy.Paces (policy : RetryPolicy) (settings : ClientSettings) : Prop :=
  ∃ greatest, settings.retryMaxSeconds.toBinary64 = .ok greatest ∧
    ∀ attempt, ∃ pause, policy.waitAfter settings.retryMinSeconds greatest attempt = .ok pause

/-- The waits between attempts can be told. -/
def Paced (settings : ClientSettings) : Prop :=
  ∃ greatest, settings.retryMaxSeconds.toBinary64 = .ok greatest ∧
    ∀ attempt, ∃ pause, waitAfter settings.retryMinSeconds greatest attempt = .ok pause

theorem attemptLimit_int (n : Int) : attemptLimit (.int n) = .ok (max 1 n).toNat := by
  have known : (Value.int n).real? = some (n : ℚ) := rfl
  have greater := Value.greater_int_of_real? known 1
  rw [attemptLimit, Value.maximum, greater]
  by_cases more : 1 < n
  · have decided : decide (((1 : Int) : ℚ) < n) = true := decide_eq_true (by exact_mod_cast more)
    rw [decided, max_eq_right more.le]
    rfl
  · have decided : decide (((1 : Int) : ℚ) < n) = false :=
      decide_eq_false (by exact_mod_cast more)
    rw [decided, max_eq_left (Int.not_lt.mp more)]
    rfl

theorem RetryPolicy.paces_doubling_iff {settings : ClientSettings} :
    RetryPolicy.doubling.Paces settings ↔ Paced settings :=
  Iff.rfl

/-- Waits that are binary numbers, as they are meant to be, can be told. -/
theorem RetryPolicy.Lawful.paces_of_floats
    {policy : RetryPolicy} (lawful : policy.Lawful)
    {settings : ClientSettings} {least greatest : Binary64}
    (leastKnown : settings.retryMinSeconds = .float least)
    (greatestKnown : settings.retryMaxSeconds = .float greatest) : policy.Paces settings := by
  refine ⟨greatest, congrArg Value.toBinary64 greatestKnown, fun attempt => ?_⟩
  rw [leastKnown]
  exact lawful.waits least greatest attempt

theorem paced_of_floats
    {settings : ClientSettings} {least greatest : Binary64}
    (leastKnown : settings.retryMinSeconds = .float least)
    (greatestKnown : settings.retryMaxSeconds = .float greatest) : Paced settings :=
  RetryPolicy.paces_doubling_iff.mp
    (RetryPolicy.lawful_doubling.paces_of_floats leastKnown greatestKnown)

/-! ## The outcome of the last attempt -/

/-- What is made of the outcome of the last attempt and of nothing else. -/
def conclude {α : Type} (pass : Fault → Failure) (read : String → Except Failure α) :
    Except Fault ChatAnswer → Except Failure α
  | .error fault => .error (if fault.isPassing then pass fault else fault.alone)
  | .ok answer =>
    match answer.choices with
    | [] => .error noChoices.alone
    | first :: _ => read (first.content.getD "")

/-- What becomes of a request: where there is none, nothing is sent and its failure is the
outcome; else it is sent up to the last attempt, and the outcome is what came of that. -/
def Relays {α : Type} (asked : Except Failure Entries) (last : Nat)
    (conclusion : Except Failure α) (exchange : Exchange (List Entries) α) : Prop :=
  match asked with
  | .error failure => exchange.transport = [] ∧ exchange.outcome = .error failure
  | .ok request =>
    exchange.transport = List.replicate (last + 1) request ∧ exchange.outcome = conclusion

section Completing

variable {settings : ClientSettings} {script : Script} {maxRetries : Int}

theorem conclude_alone (outcome : Except Fault ChatAnswer) :
    ((outcome.map ChatAnswer.value).bind responseText).mapError Fault.alone =
      conclude Fault.alone .ok outcome := by
  cases outcome with
  | error fault => exact congrArg Except.error (ite_self _).symm
  | ok answer =>
      have text := responseText_value answer
      unfold ChatAnswer.text at text
      change (responseText answer.value).mapError Fault.alone = _
      rw [text, conclude]
      cases answer.choices with
      | nil => rfl
      | cons first rest => rfl

theorem script_behind_zero (script : Script) : script.behind 0 = script :=
  funext fun count => congrArg script (Nat.zero_add count)

/-- Whatever lawful policy is followed, what becomes of a request is up to the attempt that ends
the script. -/
theorem completeWith_of_ends
    {policy : RetryPolicy} (lawful : policy.Lawful) (paces : policy.Paces settings)
    (retries : settings.maxRetries = .int maxRetries)
    {last : Nat} (ends : Ends script (max 1 maxRetries).toNat last)
    (options : RequestOptions) (messages : Value) :
    Relays ((checkMessages messages).map (request settings · options)) last
      (conclude Fault.alone .ok (script last))
      (completeWith policy (scripted script) settings options messages []) := by
  cases accepted : checkMessages messages with
  | error failure =>
      unfold completeWith
      rw [accepted]
      exact ⟨rfl, rfl⟩
  | ok checked =>
      obtain ⟨greatest, greatestKnown, waits⟩ := paces
      have some : 0 < (max 1 maxRetries).toNat := by omega
      have fromStart : Ends (script.behind ([] : List Entries).length)
          ((max 1 maxRetries).toNat - 1 + 1) last := by
        rwa [List.length_nil, script_behind_zero, Nat.sub_add_cancel some]
      obtain ⟨outcome, state⟩ :=
        ask_of_ends lawful waits (request settings checked options) fromStart 1
      rw [List.length_nil, script_behind_zero] at outcome
      have bounds : (do
          return (← attemptLimit settings.maxRetries, ← settings.retryMaxSeconds.toBinary64) :
            Except Fault (Nat × Binary64)) = .ok ((max 1 maxRetries).toNat, greatest) := by
        rw [retries, attemptLimit_int, greatestKnown]
        rfl
      unfold completeWith
      rw [accepted]
      dsimp only
      rw [bounds]
      refine ⟨state, ?_⟩
      rw [← conclude_alone, ← outcome]

theorem complete_of_ends
    (paced : Paced settings) (retries : settings.maxRetries = .int maxRetries)
    {last : Nat} (ends : Ends script (max 1 maxRetries).toNat last)
    (options : RequestOptions) (messages : Value) :
    Relays ((checkMessages messages).map (request settings · options)) last
      (conclude Fault.alone .ok (script last))
      (complete (scripted script) settings options messages []) :=
  completeWith_of_ends RetryPolicy.lawful_doubling (RetryPolicy.paces_doubling_iff.mpr paced)
    retries ends options messages

end Completing

/-! ## Prompts -/

/-- Messages that are mappings are taken as they are. -/
theorem checkMessages_of_dicts
    {members : List Value} (some : members ≠ [])
    (dicts : ∀ member ∈ members, ∃ entries, member = .dict entries) :
    checkMessages (.list members) = .ok members := by
  unfold checkMessages
  change ((List.mapM _ members : Except Failure (List Value)) >>= _) = _
  rw [mapM_eq_self]
  · change (if members.isEmpty = true then _ else _) = _
    have notEmpty : ¬ members.isEmpty = true := fun empty => some (List.isEmpty_iff.mp empty)
    exact if_neg notEmpty
  · intro member here
    obtain ⟨entries, rfl⟩ := dicts member here
    rfl

end Client

end QuoteDesk
