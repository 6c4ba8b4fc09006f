import QuoteDesk.Proofs.Assistant.Asking

/-!
# Answers of the assistant

The prompts of an assistant are lists of mappings, so a client takes them as they are.
What becomes of a chat message or of a description of a building is then up to the attempt
that ends the asking: a passing failure is named in a fault of the session, any other one
is handed on, and an answer is given or read.
-/

namespace QuoteDesk

open Number

namespace Prompt

theorem exists_dict_of_historyMessage
    {entry message : Value} (spoken : historyMessage entry = .ok (some message)) :
    ∃ entries, message = .dict entries := by
  unfold historyMessage at spoken
  cases entry with
  | dict entries =>
      obtain ⟨heard, -, spoken⟩ := exists_of_bind_eq_ok spoken
      split at spoken
      · obtain ⟨role, -, spoken⟩ := exists_of_bind_eq_ok spoken
        obtain ⟨content, -, spoken⟩ := exists_of_bind_eq_ok spoken
        cases spoken
        exact ⟨_, rfl⟩
      · cases spoken
  | _ => cases spoken

theorem dicts_of_chatMessages
    {new inventory quoteLines history : Value} {prompt : List Value}
    (written : chatMessages new inventory quoteLines history = .ok prompt) :
    prompt ≠ [] ∧ ∀ message ∈ prompt, ∃ entries, message = .dict entries := by
  unfold chatMessages at written
  obtain ⟨stock, -, written⟩ := exists_of_bind_eq_ok written
  obtain ⟨quote, -, written⟩ := exists_of_bind_eq_ok written
  obtain ⟨entries, -, written⟩ := exists_of_bind_eq_ok written
  obtain ⟨spoken, told, written⟩ := exists_of_bind_eq_ok written
  cases written
  refine ⟨List.cons_ne_nil _ _, fun message member => ?_⟩
  rcases List.mem_cons.mp member with rfl | member
  · exact ⟨_, rfl⟩
  · rcases List.mem_append.mp member with earlier | new
    · rw [List.mem_filterMap] at earlier
      obtain ⟨_, here, rfl⟩ := earlier
      obtain ⟨entry, -, spoke⟩ := exists_of_mem_mapM told here
      exact exists_dict_of_historyMessage spoke
    · rw [List.mem_singleton.mp new]
      exact ⟨_, rfl⟩

theorem dicts_of_analysisMessages
    {description inventory : Value} {prompt : List Value}
    (written : analysisMessages description inventory = .ok prompt) :
    prompt ≠ [] ∧ ∀ message ∈ prompt, ∃ entries, message = .dict entries := by
  unfold analysisMessages at written
  obtain ⟨stock, -, written⟩ := exists_of_bind_eq_ok written
  dsimp only at written
  split at written
  · cases written
    refine ⟨List.cons_ne_nil _ _, ?_⟩
    rw [List.forall_mem_cons, List.forall_mem_singleton]
    exact ⟨⟨_, rfl⟩, _, rfl⟩
  · cases written
  · cases written

end Prompt

/-! ## The assistant -/

namespace Assistant

open Client

/-- The fault of the session for a failure that passes, which it names. -/
def asCollaborator (said : String) (fault : Fault) : Failure :=
  ⟨.session (.because .collaborator said [("cause", .text fault.kind)]), some fault.kind⟩

theorem blame_alone (said : String) (fault : Fault) :
    blame said fault.alone = if fault.isPassing then asCollaborator said fault else fault.alone :=
  rfl

theorem mapError_conclude (said : String) (outcome : Except Fault ChatAnswer) :
    (conclude Fault.alone .ok outcome).mapError (blame said) =
      conclude (asCollaborator said) .ok outcome := by
  cases outcome with
  | error fault =>
      have alone : conclude Fault.alone Except.ok (.error fault) =
          (.error fault.alone : Except Failure String) := congrArg Except.error (ite_self _)
      rw [alone]
      exact congrArg Except.error (blame_alone said fault)
  | ok answer =>
      cases known : answer.choices with
      | nil =>
          simp only [conclude, known]
          rfl
      | cons first rest =>
          simp only [conclude, known]
          rfl

/-- What is read from the text of an answer is read from what the answer comes to. -/
theorem conclude_read
    {α : Type} (pass : Fault → Failure) (read : String → Except Failure α)
    (outcome : Except Fault ChatAnswer) :
    conclude pass read outcome = (conclude pass .ok outcome).bind read := by
  cases outcome with
  | error fault => rfl
  | ok answer =>
      cases known : answer.choices with
      | nil =>
          simp only [conclude, known]
          rfl
      | cons first rest =>
          simp only [conclude, known]
          rfl

section Answering

variable {settings : ClientSettings} {script : Script} {maxRetries : Int} {last : Nat}

/-- An assistant behind which a script stands for the model. -/
def scripted (script : Script) (settings : ClientSettings) (temperature maxTokens : Value) :
    Assistant (List Entries) :=
  ⟨Client.responder (Client.scripted script) settings, temperature, maxTokens⟩

/-- A chat turn relays what its last attempt came to. -/
theorem chat_of_ends
    (paced : Paced settings) (retries : settings.maxRetries = .int maxRetries)
    (ends : Ends script (max 1 maxRetries).toNat last)
    (temperature maxTokens message inventory quoteLines history : Value) :
    Relays (((Prompt.chatMessages message inventory quoteLines history).mapError Fault.alone).map
        (request settings · ⟨temperature, maxTokens, false, []⟩)) last
      (conclude (asCollaborator "Chat completion failed") .ok (script last))
      ((scripted script settings temperature maxTokens).chat message inventory quoteLines
        history []) := by
  unfold chat
  cases written : Prompt.chatMessages message inventory quoteLines history with
  | error fault => exact ⟨rfl, rfl⟩
  | ok prompt =>
      obtain ⟨some, dicts⟩ := Prompt.dicts_of_chatMessages written
      have relays := complete_of_ends paced retries ends ⟨temperature, maxTokens, false, []⟩
        (.list prompt)
      rw [checkMessages_of_dicts some dicts] at relays
      obtain ⟨sent, outcome⟩ := relays
      refine ⟨sent, ?_⟩
      rw [← mapError_conclude, ← outcome]
      rfl

/-- An analysis relays what its last attempt came to. -/
theorem analyze_of_ends
    (paced : Paced settings) (retries : settings.maxRetries = .int maxRetries)
    (ends : Ends script (max 1 maxRetries).toNat last)
    (temperature maxTokens description inventory : Value) :
    Relays (((Prompt.analysisMessages description inventory).mapError Fault.alone).map
        (request settings · ⟨analysisTemperature, .int Prompt.analysisTokens, true, []⟩)) last
      (conclude (asCollaborator "Building analysis request failed")
        (fun answer => (readAnswer answer).map Prod.fst) (script last))
      ((scripted script settings temperature maxTokens).analyze description inventory []) := by
  rw [conclude_read, ← mapError_conclude]
  unfold analyze
  cases written : Prompt.analysisMessages description inventory with
  | error fault => exact ⟨rfl, rfl⟩
  | ok prompt =>
      obtain ⟨some, dicts⟩ := Prompt.dicts_of_analysisMessages written
      have relays := complete_of_ends paced retries ends
        ⟨analysisTemperature, .int Prompt.analysisTokens, true, []⟩ (.list prompt)
      rw [checkMessages_of_dicts some dicts] at relays
      obtain ⟨sent, outcome⟩ := relays
      rw [← outcome]
      dsimp only [scripted, Client.responder]
      generalize complete (Client.scripted script) settings _ (.list prompt) [] = exchange at sent ⊢
      cases told : exchange.outcome with
      | error failure => exact ⟨sent, rfl⟩
      | ok answer =>
          change Relays _ last ((readAnswer answer).map Prod.fst) _
          dsimp only
          cases readAnswer answer with
          | error failure => exact ⟨sent, rfl⟩
          | ok analysis => exact ⟨sent, rfl⟩

/-- Whatever the model answers, a request is sent up to the attempt that ends the script, and
what becomes of it is up to the outcome of that attempt alone.  A client hands its failure on;
an assistant turns it into one of the session where it is passing, and nowhere else. -/
theorem exchanges_end_with_script
    (paced : Paced settings) (retries : settings.maxRetries = .int maxRetries)
    (script : Script) :
    ∃ last, Ends script (max 1 maxRetries).toNat last ∧
      (∀ options messages,
        Relays ((checkMessages messages).map (request settings · options)) last
          (conclude Fault.alone .ok (script last))
          (complete (Client.scripted script) settings options messages [])) ∧
      (∀ temperature maxTokens message inventory quoteLines history,
        Relays
          (((Prompt.chatMessages message inventory quoteLines history).mapError Fault.alone).map
            (request settings · ⟨temperature, maxTokens, false, []⟩)) last
          (conclude (asCollaborator "Chat completion failed") .ok (script last))
          ((scripted script settings temperature maxTokens).chat message inventory quoteLines
            history [])) ∧
      ∀ temperature maxTokens description inventory,
        Relays (((Prompt.analysisMessages description inventory).mapError Fault.alone).map
            (request settings · ⟨analysisTemperature, .int Prompt.analysisTokens, true, []⟩)) last
          (conclude (asCollaborator "Building analysis request failed")
            (fun answer => (readAnswer answer).map Prod.fst) (script last))
          ((scripted script settings temperature maxTokens).analyze description inventory []) := by
  have some : 0 < (max 1 maxRetries).toNat := by omega
  obtain ⟨last, ends⟩ := exists_ends script ((max 1 maxRetries).toNat - 1)
  rw [Nat.sub_add_cancel some] at ends
  exact ⟨last, ends, complete_of_ends paced retries ends, chat_of_ends paced retries ends,
    analyze_of_ends paced retries ends⟩

/-- Settings with three attempts. -/
def thriceTried : ClientSettings where
  baseUrl := .text "https://api.openai.com/v1"
  apiKey := .text "sk-test"
  model := .text "gpt-4o-mini"
  organization := .null
  requestTimeout := .float (Binary64.ofInt 60)
  maxRetries := .int 3
  retryMinSeconds := .float (Binary64.ofDecimal false 5 (-1))
  retryMaxSeconds := .float (Binary64.ofInt 6)
  defaultHeaders := .null
  debugLogging := .bool false

/-- A model that is busy twice and then greets. -/
def busyTwice : Script
  | 0 | 1 => .error (.reported "RateLimitError" "Too many requests")
  | _ =>
    let choice := Value.record [("message", .record [("content", .text "Hello!")])]
    .ok ⟨.record [("choices", .list [choice])], [⟨choice, some "Hello!", rfl⟩], .inl rfl⟩

/-- The third attempt is the last one: its greeting is the answer. -/
theorem exchange_ends_with_greeting :
    Paced thriceTried ∧ thriceTried.maxRetries = .int 3 ∧
      Relays (.ok (request thriceTried [.dict [("role", .text "user")]] ⟨.null, .null, false, []⟩))
        2 (.ok "Hello!")
        (complete (Client.scripted busyTwice) thriceTried ⟨.null, .null, false, []⟩
          (.list [.dict [("role", .text "user")]]) []) := by
  have paced : Paced thriceTried := paced_of_floats rfl rfl
  obtain ⟨last, ends, completes, -⟩ := exchanges_end_with_script paced rfl busyTwice
  have busy : ∀ earlier < 2, Passing (busyTwice earlier) := by
    intro earlier less
    obtain rfl | rfl : earlier = 0 ∨ earlier = 1 := by omega
    · exact ⟨_, rfl, by decide +kernel⟩
    · exact ⟨_, rfl, by decide +kernel⟩
  obtain rfl : 2 = last := ends.unique ⟨busy, by decide, .inr rfl⟩
  exact ⟨paced, rfl, completes ⟨.null, .null, false, []⟩ (.list [.dict [("role", .text "user")]])⟩

end Answering

end Assistant

end QuoteDesk
