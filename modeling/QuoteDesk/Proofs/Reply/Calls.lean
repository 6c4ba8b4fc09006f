import QuoteDesk.Proofs.Reply.Fates

/-!
# The calls that commands and replies make

Noting the calls of commands or of a reply does not depend on the calls noted
before.  What the calls are follows from how the work ended: all of them succeeded
and stand beside the commands executed, or only the last one failed.
-/

namespace QuoteDesk

variable {σ : Type}

/-! ## Behind earlier calls -/

/-- The bench behind which some calls are noted already. -/
def Bench.withCalls (bench : Bench σ) (calls : List NotedCall) : Bench (Noted σ) :=
  bench.mapState fun state => ⟨state, calls⟩

theorem Bench.withCalls_eq (bench : Bench σ) (calls : List NotedCall) :
    bench.withCalls calls =
      bench.noting.mapState fun noted => ⟨noted.state, calls ++ noted.calls⟩ := by
  simp only [withCalls, noting, mapState, List.append_nil]

/-- Watched operations do the same whatever was noted before. -/
theorem QuoteAccess.follows_earlier (access : QuoteAccess σ) (earlier : List NotedCall) :
    QuoteAccess.Follows (fun noted : Noted σ => ⟨noted.state, earlier ++ noted.calls⟩)
      access.noting access.noting where
  add _ _ _ := by simp only [QuoteAccess.noting, Noted.note, List.append_assoc]
  remove _ _ := by simp only [QuoteAccess.noting, Noted.note, List.append_assoc]

namespace Command

/-- The calls made while commands are executed, in order. -/
def callsOf
    (access : QuoteAccess σ) (catalog : Catalog) (bench : Bench σ) (commands : List Command) :
    List NotedCall :=
  (execute access.noting catalog bench.noting commands).2.state.calls

/-- Noting the calls changes nothing about an execution. -/
theorem execute_noting
    (access : QuoteAccess σ) (catalog : Catalog) (bench : Bench σ) (commands : List Command) :
    execute access catalog bench commands =
      ((execute access.noting catalog bench.noting commands).1,
        (execute access.noting catalog bench.noting commands).2.mapState Noted.state) :=
  execute_mapState (Reply.follows_noting access) catalog bench.noting commands

theorem execute_withCalls
    (access : QuoteAccess σ) (catalog : Catalog) (bench : Bench σ) (calls : List NotedCall)
    (commands : List Command) :
    execute access.noting catalog (bench.withCalls calls) commands =
      ((execute access catalog bench commands).1,
        (execute access catalog bench commands).2.withCalls
          (calls ++ callsOf access catalog bench commands)) := by
  rw [bench.withCalls_eq, execute_noting access catalog bench commands]
  exact execute_mapState (access.follows_earlier calls) catalog bench.noting commands

end Command

theorem Reply.process_withCalls
    (context : TurnContext σ) (bench : Bench σ) (calls : List NotedCall) (reply : Value) :
    process context.noting (bench.withCalls calls) reply =
      ((process context bench reply).1,
        (process context bench reply).2.withCalls (calls ++ callsOf context bench reply)) := by
  rw [bench.withCalls_eq, process_noting context bench reply]
  exact process_mapState (context.access.follows_earlier calls) context.inventory
    context.quoteLines bench.noting reply

/-! ## The calls of commands -/

/-- A call makes the change that a command asks for. -/
inductive Command.Makes : Command → QuoteCall → Prop
  | add {sku : String} {amount : Amount} {item : Value} :
      item.hasId sku = true →
      Makes (.add sku amount) (.add item amount)
  | remove {sku : String} : Makes (.remove sku) (.remove sku)

namespace Command

variable {access : QuoteAccess σ} {catalog : Catalog} {bench : Bench σ}
  {commands executed : List Command} {fault : Fault}

theorem makes_of_asked
    {inventory : Value} {command : Command} {call : QuoteCall}
    (indexed : Reply.catalogOf inventory = .ok catalog)
    (asked : command.call? catalog = some call) : command.Makes call := by
  cases command with
  | add sku amount =>
      obtain ⟨item, found, rfl⟩ := Option.map_eq_some_iff.1 asked
      rw [Reply.find?_catalogOf indexed] at found
      exact .add (@List.find?_some _ (Value.hasId · sku) item _ found)
  | remove sku =>
      cases asked
      exact .remove
  | other request => cases asked

theorem makes_of_executable
    {inventory : Value} (indexed : Reply.catalogOf inventory = .ok catalog)
    (commands : List Command) :
    List.Forall₂ Makes (commands.filter (isExecutable catalog))
      (commands.filterMap (call? catalog)) := by
  induction commands with
  | nil => exact .nil
  | cons command rest inductionHypothesis =>
      cases asked : command.call? catalog with
      | none =>
          rw [List.filterMap_cons_none asked,
            List.filter_cons_of_neg (by simp [isExecutable, asked])]
          exact inductionHypothesis
      | some call =>
          rw [List.filterMap_cons_some asked,
            List.filter_cons_of_pos (by simp [isExecutable, asked])]
          exact .cons (makes_of_asked indexed asked) inductionHypothesis

/-- Commands that were executed to their end made the calls that they asked for. -/
theorem callsOf_of_ok
    (ended : (execute access catalog bench commands).1 = .ok executed) :
    executed = commands.filter (isExecutable catalog) ∧
      callsOf access catalog bench commands =
        (commands.filterMap (call? catalog)).map QuoteCall.succeeded := by
  rw [execute_noting] at ended
  obtain ⟨result, state, _⟩ := execute_eq_runAll access.noting catalog bench.noting commands
  obtain ⟨kept, made, _⟩ :=
    runAll_noting_ok (Prod.ext (result.symm.trans ended) rfl : runAll access.noting catalog
      bench.noting [] commands = (.ok executed, _))
  refine ⟨kept, ?_⟩
  rw [callsOf, state, made]
  rfl

/-- Commands that failed made the calls of those before one, and its call failed. -/
theorem callsOf_of_error
    (ended : (execute access catalog bench commands).1 = .error fault) :
    ∃ earlier failing later call,
      commands = earlier ++ failing :: later ∧ failing.call? catalog = some call ∧
        callsOf access catalog bench commands =
          (earlier.filterMap (call? catalog)).map QuoteCall.succeeded ++ [⟨call, some fault⟩] := by
  rw [execute_noting] at ended
  obtain ⟨result, state, _⟩ := execute_eq_runAll access.noting catalog bench.noting commands
  obtain ⟨earlier, failing, later, call, split, asked, made, _⟩ :=
    runAll_noting_error (Prod.ext (result.symm.trans ended) rfl : runAll access.noting catalog
      bench.noting [] commands = (.error fault, _))
  refine ⟨earlier, failing, later, call, split, asked, ?_⟩
  rw [callsOf, state, made]
  rfl

/-- A run attempts the calls that its commands ask for. -/
theorem calls_runAll_noting
    (access : QuoteAccess σ) (catalog : Catalog) (bench : Bench (Noted σ))
    (before commands : List Command) :
    (runAll access.noting catalog bench before commands).2.state.calls =
      bench.state.calls ++
        access.attempts bench.state.state (commands.filterMap (call? catalog)) := by
  induction commands generalizing bench before with
  | nil => exact (List.append_nil _).symm
  | cons command rest inductionHypothesis =>
      rw [runAll]
      cases asked : command.call? catalog with
      | none =>
          obtain ⟨next, stepped, state, _⟩ := run_of_call?_eq_none asked access.noting bench
          rw [stepped, List.filterMap_cons_none asked, ← state]
          exact inductionHypothesis next before
      | some call =>
          obtain ⟨stepped, _⟩ := run_of_call?_eq_some asked access.noting bench
          rw [QuoteAccess.make_noting] at stepped
          rw [stepped, List.filterMap_cons_some asked]
          cases failure : (access.make bench.state.state call).failure with
          | none =>
              have goesOn : fateOf (bench.state.note call (access.make bench.state.state call)) =
                  .executed := by simp only [fateOf, Noted.note, failure]
              rw [goesOn, QuoteAccess.attempts_cons_of_none failure]
              refine (inductionHypothesis _ _).trans ?_
              simp [Bench.after, Noted.note, failure, QuoteCall.succeeded]
          | some fault =>
              have stops : fateOf (bench.state.note call (access.make bench.state.state call)) =
                  .failed fault := by simp only [fateOf, Noted.note, failure]
              rw [stops, QuoteAccess.attempts_cons_of_some failure]
              simp [Bench.after, Noted.note, failure]

/-- The calls of commands are those attempted up to the first that fails. -/
theorem callsOf_eq_attempts
    (access : QuoteAccess σ) (catalog : Catalog) (bench : Bench σ) (commands : List Command) :
    callsOf access catalog bench commands =
      access.attempts bench.state (commands.filterMap (call? catalog)) := by
  obtain ⟨_, state, _⟩ := execute_eq_runAll access.noting catalog bench.noting commands
  rw [callsOf, state]
  exact calls_runAll_noting access catalog bench.noting [] commands

theorem asked_of_mem_callsOf
    {noted : NotedCall} (member : noted ∈ callsOf access catalog bench commands) :
    ∃ command ∈ commands, command.call? catalog = some noted.call := by
  cases ended : (execute access catalog bench commands).1 with
  | ok executed =>
      rw [(callsOf_of_ok ended).2] at member
      obtain ⟨call, made, rfl⟩ := List.mem_map.1 member
      exact List.mem_filterMap.1 made
  | error fault =>
      obtain ⟨earlier, failing, later, call, rfl, asked, calls⟩ := callsOf_of_error ended
      rw [calls, List.mem_append, List.mem_singleton] at member
      rcases member with before | last
      · obtain ⟨earlierCall, made, rfl⟩ := List.mem_map.1 before
        obtain ⟨command, among, commandAsked⟩ := List.mem_filterMap.1 made
        exact ⟨command, List.mem_append_left _ among, commandAsked⟩
      · rw [last]
        exact ⟨failing, List.mem_append_right _ List.mem_cons_self, asked⟩

end Command

/-! ## The calls of a reply -/

namespace Reply

variable {context : TurnContext σ} {bench : Bench σ} {reply : Value}

theorem process_blank
    (blank : ∀ s : String, reply = .text s → s = "") (context : TurnContext σ) (bench : Bench σ) :
    process context bench reply = (.ok ⟨[], ""⟩, bench) := by
  unfold process
  split
  · rfl
  · rename_i s nonempty
    exact absurd (blank s rfl) nonempty
  · rfl

/-- A text whose commands are not reached makes no calls; otherwise its calls are
those of its commands. -/
theorem callsOf_text_cases
    {s : String} (nonempty : s ≠ "") (context : TurnContext σ) (bench : Bench σ) :
    (callsOf context bench (.text s) = [] ∧
      ∃ fault, (process context bench (.text s)).1 = .error fault) ∨
    ∃ catalog checked next,
      checkAll bench (Directive.scan s.toList) = (checked, next) ∧
        catalogOf context.inventory = .ok catalog ∧
        callsOf context bench (.text s) =
          Command.callsOf context.access catalog next checked.commands ∧
        (process context bench (.text s)).1.map Processed.executed =
          (Command.execute context.access catalog next checked.commands).1 := by
  rcases work : checkAll bench (Directive.scan s.toList) with ⟨checked, next⟩
  have watched : checkAll bench.noting (Directive.scan s.toList) = (checked, next.noting) := by
    rw [Bench.noting, checkAll_mapState, work]
    rfl
  have sameInventory : context.noting.inventory = context.inventory := rfl
  rw [callsOf, process_text _ _ nonempty, process_text _ _ nonempty, processText, processText,
    work, watched]
  dsimp only
  cases checked.failure with
  | some fault => exact Or.inl ⟨rfl, fault, rfl⟩
  | none =>
      rw [sameInventory]
      cases indexed : catalogOf context.inventory with
      | error fault => exact Or.inl ⟨rfl, fault, rfl⟩
      | ok catalog =>
          refine Or.inr ⟨catalog, checked, next, rfl, rfl, ?_, ?_⟩
          · dsimp only
            have sameAccess : context.noting.access = context.access.noting := rfl
            rw [Command.callsOf, sameAccess]
            rcases Command.execute context.access.noting catalog next.noting checked.commands with
              ⟨fault | executed, after⟩
            · rfl
            · rfl
          · dsimp only
            rcases Command.execute context.access catalog next checked.commands with
              ⟨fault | executed, after⟩
            · rfl
            · rfl

/-- A reply makes no calls and executes nothing, or it makes the calls of the
commands of its directives. -/
theorem callsOf_cases (context : TurnContext σ) (bench : Bench σ) (reply : Value) :
    (callsOf context bench reply = [] ∧
      ∀ processed, (process context bench reply).1 = .ok processed → processed.executed = []) ∨
    ∃ directives catalog checked next,
      checkAll bench directives = (checked, next) ∧
        catalogOf context.inventory = .ok catalog ∧
        callsOf context bench reply =
          Command.callsOf context.access catalog next checked.commands ∧
        (process context bench reply).1.map Processed.executed =
          (Command.execute context.access catalog next checked.commands).1 := by
  by_cases blank : ∀ s : String, reply = .text s → s = ""
  · rw [callsOf, process_blank blank, process_blank blank]
    refine Or.inl ⟨rfl, ?_⟩
    intro processed returned
    cases returned
    rfl
  · obtain ⟨s, rfl, nonempty⟩ : ∃ s : String, reply = .text s ∧ s ≠ "" := by
      simpa only [not_forall, exists_prop] using blank
    rcases callsOf_text_cases nonempty context bench with
      ⟨noCalls, fault, raised⟩ | ⟨catalog, checked, next, found⟩
    · refine Or.inl ⟨noCalls, ?_⟩
      intro processed returned
      cases raised.symm.trans returned
    · exact Or.inr ⟨_, catalog, checked, next, found⟩

theorem calls_of_ok
    {processed : Processed} (returned : (process context bench reply).1 = .ok processed) :
    ∃ changes : List QuoteCall,
      callsOf context bench reply = changes.map QuoteCall.succeeded ∧
        List.Forall₂ Command.Makes processed.executed changes := by
  rcases callsOf_cases context bench reply with
    ⟨noCalls, nothing⟩ | ⟨_, catalog, checked, next, _, indexed, calls, ended⟩
  · rw [nothing processed returned]
    exact ⟨[], noCalls, .nil⟩
  · rw [returned] at ended
    obtain ⟨kept, made⟩ := Command.callsOf_of_ok ended.symm
    rw [calls, made, kept]
    exact ⟨_, rfl, Command.makes_of_executable indexed checked.commands⟩

theorem calls_of_error
    {fault : Fault} (raised : (process context bench reply).1 = .error fault) :
    callsOf context bench reply = [] ∨
      ∃ (changes : List QuoteCall) (call : QuoteCall),
        callsOf context bench reply =
          changes.map QuoteCall.succeeded ++ [⟨call, some fault⟩] := by
  rcases callsOf_cases context bench reply with
    ⟨noCalls, _⟩ | ⟨_, catalog, checked, next, _, _, calls, ended⟩
  · exact Or.inl noCalls
  · rw [raised] at ended
    obtain ⟨earlier, _, _, call, _, _, made⟩ := Command.callsOf_of_error ended.symm
    rw [calls, made]
    exact Or.inr ⟨_, call, rfl⟩

end Reply

end QuoteDesk
