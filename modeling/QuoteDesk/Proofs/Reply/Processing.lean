import QuoteDesk.Directive.Reply
import QuoteDesk.Proofs.Directive.Checking
import QuoteDesk.Proofs.Directive.Execution

/-!
# How a reply is processed

A reply with some text is checked, then the inventory is put into a catalog,
then the commands are executed.  Each of the three may end the work.  Noting
the calls that a quote receives meanwhile changes nothing else.
-/

namespace QuoteDesk

variable {σ τ : Type}

/-- The context with watched operations. -/
def TurnContext.noting (context : TurnContext σ) : TurnContext (Noted σ) :=
  ⟨context.inventory, context.access.noting, context.quoteLines⟩

/-- The bench with an empty list of calls. -/
def Bench.noting (bench : Bench σ) : Bench (Noted σ) :=
  bench.mapState fun state => ⟨state, []⟩

namespace Reply

/-- The calls made while a reply is processed, in order. -/
def callsOf (context : TurnContext σ) (bench : Bench σ) (reply : Value) : List NotedCall :=
  (process context.noting bench.noting reply).2.state.calls

/-! ## Noting changes nothing -/

/-- Processing does not look behind the view of the state. -/
theorem process_mapState
    {view : σ → τ} {inner : QuoteAccess σ} {outer : QuoteAccess τ}
    (follows : QuoteAccess.Follows view inner outer) (inventory quoteLines : Value)
    (bench : Bench σ) (reply : Value) :
    process ⟨inventory, outer, quoteLines⟩ (bench.mapState view) reply =
      ((process ⟨inventory, inner, quoteLines⟩ bench reply).1,
        (process ⟨inventory, inner, quoteLines⟩ bench reply).2.mapState view) := by
  have text : ∀ s, processText ⟨inventory, outer, quoteLines⟩ (bench.mapState view) s =
      ((processText ⟨inventory, inner, quoteLines⟩ bench s).1,
        (processText ⟨inventory, inner, quoteLines⟩ bench s).2.mapState view) := by
    intro s
    simp only [processText, checkAll_mapState]
    rcases checkAll bench (Directive.scan s.toList) with ⟨⟨pairs, _ | fault⟩, checked⟩
    · rcases catalogOf inventory with fault | catalog
      · rfl
      · simp only [Command.execute_mapState follows]
        rcases Command.execute inner catalog checked _ with ⟨fault | executed, after⟩
        · rfl
        · rfl
    · rfl
  unfold process
  split
  · rfl
  · exact text _
  · rfl

theorem follows_noting (access : QuoteAccess σ) :
    QuoteAccess.Follows Noted.state access.noting access where
  add _ _ _ := rfl
  remove _ _ := rfl

/-- The calls can be noted without a difference to anything else. -/
theorem process_noting (context : TurnContext σ) (bench : Bench σ) (reply : Value) :
    process context bench reply =
      ((process context.noting bench.noting reply).1,
        (process context.noting bench.noting reply).2.mapState Noted.state) :=
  process_mapState (follows_noting context.access) context.inventory context.quoteLines
    bench.noting reply

/-! ## The three ways to an end -/

theorem process_text
    (context : TurnContext σ) (bench : Bench σ) {s : String} (nonempty : s ≠ "") :
    process context bench (.text s) = processText context bench s := by
  unfold process
  split
  · rename_i equal
    exact absurd (Value.text.inj equal) nonempty
  · rename_i equal
    rw [Value.text.inj equal]
  · rename_i other
    exact absurd rfl (other s)

variable {context : TurnContext σ} {bench : Bench σ} {s : String}

theorem processText_of_failure
    {fault : Fault}
    (failure : (checkAll bench (Directive.scan s.toList)).1.failure = some fault) :
    processText context bench s =
      (.error fault, (checkAll bench (Directive.scan s.toList)).2) := by
  simp only [processText, failure]

theorem processText_of_catalog_error
    {fault : Fault}
    (checked : (checkAll bench (Directive.scan s.toList)).1.failure = none)
    (unindexed : catalogOf context.inventory = .error fault) :
    processText context bench s =
      (.error fault, (checkAll bench (Directive.scan s.toList)).2) := by
  simp only [processText, checked, unindexed]

theorem processText_of_catalog
    {catalog : Catalog}
    (checked : (checkAll bench (Directive.scan s.toList)).1.failure = none)
    (indexed : catalogOf context.inventory = .ok catalog) :
    ∃ result after,
      Command.runAll context.access catalog
          (checkAll bench (Directive.scan s.toList)).2 []
          (checkAll bench (Directive.scan s.toList)).1.commands = (result, after) ∧
        (processText context bench s).1 = result.map (fun executed =>
          ⟨executed, cleanedOf s.toList (Directive.scan s.toList)⟩) ∧
        (processText context bench s).2.state = after.state ∧
        (processText context bench s).2.sink = after.sink := by
  obtain ⟨result, state, sink⟩ := Command.execute_eq_runAll context.access catalog
    (checkAll bench (Directive.scan s.toList)).2
    (checkAll bench (Directive.scan s.toList)).1.commands
  refine ⟨_, _, rfl, ?_⟩
  rw [← result, ← state, ← sink]
  simp only [processText, checked, indexed]
  rcases Command.execute context.access catalog _ _ with ⟨fault | executed, after⟩
  · exact ⟨rfl, rfl, rfl⟩
  · exact ⟨rfl, rfl, rfl⟩

/-! ## Quantities that are too long -/

/-- All directives of a text are checked when none is too long. -/
theorem checkAll_scan
    (short : ∀ directive ∈ Directive.scan s.toList, ∀ count, ¬ directive.Overlong count)
    (bench : Bench σ) :
    ∃ verdicts,
      List.Forall₂ Directive.Judged (Directive.scan s.toList) verdicts ∧
        (checkAll bench (Directive.scan s.toList)).1.failure = none ∧
        (checkAll bench (Directive.scan s.toList)).1.commands =
          verdicts.filterMap Verdict.command? ∧
        (checkAll bench (Directive.scan s.toList)).2 =
          bench.reportAll (verdicts.filterMap Verdict.diagnostic?) := by
  have written : ∀ directive ∈ Directive.scan s.toList, directive.Written :=
    fun _ member => Directive.written_of_mem_scan member
  obtain ⟨verdicts, judged⟩ := exists_judgements written
  exact ⟨verdicts, judged, checkAll_of_judged judged written short bench⟩

/-- The first quantity of a text that is too long ends the processing before
anything is executed. -/
theorem processText_of_overlong
    {before after : List Directive} {directive : Directive} {count : Nat}
    (split : Directive.scan s.toList = before ++ directive :: after)
    (overlong : directive.Overlong count)
    (short : ∀ earlier ∈ before, ∀ count, ¬ earlier.Overlong count) :
    (processText context bench s).1 = .error (.number (.tooManyDigits count)) ∧
      (processText context bench s).2.state = bench.state := by
  have written : ∀ earlier ∈ before, earlier.Written := by
    intro earlier member
    have scanned : earlier ∈ Directive.scan s.toList := by
      rw [split]
      exact List.mem_append_left _ member
    exact Directive.written_of_mem_scan scanned
  have checked := @checkAll_of_overlong σ before after directive count written short
    overlong bench
  rw [← split] at checked
  rw [processText_of_failure checked.1]
  exact ⟨rfl, checked.2⟩

end Reply

end QuoteDesk
