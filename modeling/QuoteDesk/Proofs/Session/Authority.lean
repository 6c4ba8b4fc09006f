import QuoteDesk.Proofs.Directive.Plain
import QuoteDesk.Proofs.Session.Courses
import QuoteDesk.Proofs.Session.Watching

/-!
# Who may call a quote

Only an answered chat turn and a bill of materials put on the quote make calls.
Whatever the assistant wrote, they add the first item with a proper article number
and no more than a thousand units of it, or remove a proper article number.
-/

namespace QuoteDesk

variable {σ : Type}

/-! ## Proper calls -/

/-- An addition of the first of some items with a proper article number, from 1 to
1000 units of it, or a removal of a proper article number. -/
inductive QuoteCall.Proper (items : List Value) : QuoteCall → Prop
  | add {sku : String} {item : Value} {n : Int} :
      IsSku sku →
      firstWithId items sku = some item →
      1 ≤ n →
      n ≤ 1000 →
      Proper items (.add item (.number n))
  | remove {sku : String} :
      IsSku sku →
      Proper items (.remove sku)

theorem Command.Plain.proper
    {command : Command} {call : QuoteCall} {catalog : Catalog} {inventory : Value}
    (plain : command.Plain) (indexed : Reply.catalogOf inventory = .ok catalog)
    (asked : command.call? catalog = some call) :
    call.Proper (Reply.itemsOf inventory) := by
  cases plain with
  | @add sku n isSku lower upper =>
      obtain ⟨item, found, rfl⟩ := Option.map_eq_some_iff.1 asked
      rw [Reply.find?_catalogOf indexed] at found
      exact .add isSku found lower upper
  | remove isSku =>
      cases asked
      exact .remove isSku

theorem Command.proper_of_mem_callsOf
    {access : QuoteAccess σ} {catalog : Catalog} {bench : Bench σ} {commands : List Command}
    {inventory : Value} {noted : NotedCall}
    (plain : ∀ command ∈ commands, command.Plain)
    (indexed : Reply.catalogOf inventory = .ok catalog)
    (member : noted ∈ callsOf access catalog bench commands) :
    noted.call.Proper (Reply.itemsOf inventory) := by
  obtain ⟨command, among, asked⟩ := asked_of_mem_callsOf member
  exact (plain command among).proper indexed asked

theorem Reply.proper_of_mem_callsOf
    {context : TurnContext σ} {bench : Bench σ} {reply : Value} {noted : NotedCall}
    (member : noted ∈ callsOf context bench reply) :
    noted.call.Proper (itemsOf context.inventory) := by
  rcases callsOf_cases context bench reply with
    ⟨noCalls, _⟩ | ⟨directives, catalog, checked, next, work, indexed, calls, _⟩
  · rw [noCalls] at member
    cases member
  · have plain := plain_of_mem_checkAll bench directives
    rw [work] at plain
    rw [calls] at member
    exact Command.proper_of_mem_callsOf plain indexed member

/-! ## Acts and their authority -/

namespace Occurrence

/-- The acts that may call the quote, with the inventory at hand: a chat turn is
answered, or a bill of materials that waits is put on the quote while no turn is in
flight. -/
inductive Entitled (occurred : Occurrence σ) : Value → Prop
  | replies {value : Value} {turn : Turn σ} {message : ChatMessage}
      (act : occurred.act = .answer (.reply value))
      (flying : occurred.before.session.turn = some turn)
      (chat : turn.building = false)
      (ended : occurred.outcome = .answered message) :
      Entitled occurred turn.context.inventory
  | reviews {context : TurnContext σ} {bom : Bom} {message : ChatMessage}
      (act : occurred.act = .addBom context)
      (idle : occurred.before.session.turn = none)
      (waiting : occurred.before.session.pending = some bom)
      (ended : occurred.outcome = .answered message) :
      Entitled occurred context.inventory

/-- The acts that have no business with the quote. -/
inductive Barred (occurred : Occurrence σ) : Prop
  | sent {context : TurnContext σ} {input : String} (act : occurred.act = .send context input)
  | building {turn : Turn σ} {answer : BackendAnswer}
      (act : occurred.act = .answer answer)
      (flying : occurred.before.session.turn = some turn)
      (building : turn.building = true)
  | failed {fault : Fault} (act : occurred.act = .answer (.failed fault))
  | timedOut (act : occurred.act = .timeOut)
  | cancelled (act : occurred.act = .cancel)
  | dismissed (act : occurred.act = .dismissBom)
  | rejected (quiet : occurred.outcome.Quiet)

theorem Entitled.not_barred
    {occurred : Occurrence σ} {inventory : Value}
    (entitled : occurred.Entitled inventory) : ¬ occurred.Barred := by
  intro barred
  cases entitled with
  | replies act flying chat ended =>
      cases barred with
      | sent other => cases act.symm.trans other
      | building _ otherFlying building =>
          cases flying.symm.trans otherFlying
          cases chat.symm.trans building
      | failed other => cases act.symm.trans other
      | timedOut other => cases act.symm.trans other
      | cancelled other => cases act.symm.trans other
      | dismissed other => cases act.symm.trans other
      | rejected quiet =>
          rw [ended] at quiet
          cases quiet
  | reviews act idle _ ended =>
      cases barred with
      | sent other => cases act.symm.trans other
      | building other => cases act.symm.trans other
      | failed other => cases act.symm.trans other
      | timedOut other => cases act.symm.trans other
      | cancelled other => cases act.symm.trans other
      | dismissed other => cases act.symm.trans other
      | rejected quiet =>
          rw [ended] at quiet
          cases quiet

end Occurrence

namespace Stage

variable {stage : Stage σ} {noted : NotedCall}

/-- An answer that leads to calls ends a chat turn in flight. -/
theorem entitled_of_mem_answer
    {answer : BackendAnswer} (member : noted ∈ stage.callsOf (.answer answer))
    (observer : Observer σ) :
    ∃ inventory,
      (stage.occurrence observer (.answer answer)).Entitled inventory ∧
        noted.call.Proper (Reply.itemsOf inventory) := by
  cases flying : stage.session.turn with
  | none =>
      rw [callsOf, flying] at member
      cases member
  | some turn =>
      rw [turnCalls_of_flying flying] at member
      cases answer with
      | failed fault => cases member
      | analysis analysis => cases member
      | reply value =>
          by_cases building : turn.building
          · rw [turnCalls_of_building building] at member
            cases member
          · have chat := Bool.eq_false_iff.2 building
            rw [turnCalls_of_chat chat] at member
            obtain ⟨message, ended⟩ := finishTurn_answered observer turn (.reply value) stage
            have performed : (stage.perform observer (.answer (.reply value))).1 =
                (stage.finishTurn observer turn (.reply value)).1 := by
              simp only [perform, finish, flying]
            exact ⟨_, .replies rfl flying chat (performed.trans ended),
              Reply.proper_of_mem_callsOf member⟩

theorem executeBom_answered
    (observer : Observer σ) (context : TurnContext σ) (catalog : Catalog) (bom : Bom)
    (commands : List Command) (stage : Stage σ) :
    ∃ message,
      (stage.executeBom observer context catalog bom commands).1 = .answered message := by
  unfold executeBom
  rcases Command.execute context.access catalog stage.bench commands with
    ⟨fault | executed, bench⟩
  · exact ⟨_, rfl⟩
  · exact ⟨_, rfl⟩

theorem exists_of_mem_reviewCalls
    {context : TurnContext σ} (member : noted ∈ stage.reviewCalls context) :
    ∃ bom commands bench catalog,
      stage.session.turn = none ∧ stage.session.pending = some bom ∧
        bomCommands stage.bench [] bom.lines = (.ok commands, bench) ∧
        Reply.catalogOf context.inventory = .ok catalog ∧
        noted ∈ Command.callsOf context.access catalog bench commands := by
  unfold reviewCalls at member
  cases idle : stage.session.turn with
  | some turn =>
      rw [idle] at member
      cases member
  | none =>
      cases waiting : stage.session.pending with
      | none =>
          rw [idle, waiting] at member
          cases member
      | some bom =>
          rw [idle, waiting] at member
          dsimp only at member
          rcases work : bomCommands stage.bench [] bom.lines with ⟨fault | commands, bench⟩
          · rw [work] at member
            cases member
          · rw [work] at member
            cases indexed : Reply.catalogOf context.inventory with
            | error fault =>
                rw [indexed] at member
                cases member
            | ok catalog =>
                rw [indexed] at member
                exact ⟨bom, commands, bench, catalog, rfl, rfl, work, rfl, member⟩

/-- Putting a bill of materials on the quote leads to calls when one waits and no
turn is in flight. -/
theorem entitled_of_mem_addBom
    {context : TurnContext σ} (member : noted ∈ stage.callsOf (.addBom context))
    (counted : ∀ bom, stage.session.pending = some bom →
      ∀ line ∈ bom.lines, ∀ s, line.quantity ≠ .text s)
    (observer : Observer σ) :
    ∃ inventory,
      (stage.occurrence observer (.addBom context)).Entitled inventory ∧
        noted.call.Proper (Reply.itemsOf inventory) := by
  obtain ⟨bom, commands, bench, catalog, idle, waiting, work, indexed, made⟩ :=
    exists_of_mem_reviewCalls member
  have plain := plain_of_mem_bomCommands work (counted bom waiting)
  obtain ⟨message, ended⟩ :=
    executeBom_answered observer context catalog bom commands { stage with bench := bench }
  have performed : (stage.perform observer (.addBom context)).1 = .answered message := by
    simp only [perform, addBom, Session.isBusy, idle, waiting, work, indexed, ended,
      Option.isSome_none, Bool.false_eq_true, if_false]
  exact ⟨_, .reviews rfl idle waiting performed,
    Command.proper_of_mem_callsOf plain indexed made⟩

/-- A call is made by an act that is entitled to it, and its item is one of the inventory. -/
theorem entitled_of_mem_callsOf
    {act : SessionAct σ} (member : noted ∈ stage.callsOf act)
    (counted : ∀ bom, stage.session.pending = some bom →
      ∀ line ∈ bom.lines, ∀ s, line.quantity ≠ .text s)
    (observer : Observer σ) :
    ∃ inventory,
      (stage.occurrence observer act).Entitled inventory ∧
        noted.call.Proper (Reply.itemsOf inventory) := by
  cases act with
  | answer answer => exact entitled_of_mem_answer member observer
  | addBom context => exact entitled_of_mem_addBom member counted observer
  | send context input => cases member
  | timeOut => cases member
  | cancel => cases member
  | dismissBom => cases member

/-- In every run in which no quantity of a bill of materials that waits is a text,
the quote is called by nothing but answered chat turns and bills of materials put on
the quote while no turn is in flight, and every call is proper for the inventory
that was given for it.  Messages, building turns, failures, timeouts,
cancellations, dismissals and everything rejected make no call. -/
theorem run_calls_are_entitled
    (observer : Observer σ) (limits : SessionLimits) (bench : Bench σ)
    (acts : List (SessionAct σ)) :
    let start := ofSession (.fresh limits) bench
    let occurred := start.occurrences observer acts
    let watched := (start.noting []).run observer.noting (acts.map SessionAct.noting)
    (∀ one ∈ occurred, ∀ bom, one.before.session.pending = some bom →
      ∀ line ∈ bom.lines, ∀ s, line.quantity ≠ .text s) →
    watched.bench.state.calls = occurred.flatMap (Occurrence.calls observer) ∧
      (∀ one ∈ occurred, ∀ noted ∈ one.calls observer, ∃ inventory,
        one.Entitled inventory ∧ noted.call.Proper (Reply.itemsOf inventory)) ∧
      ∀ one ∈ occurred, one.Barred → one.calls observer = [] := by
  intro start occurred watched counted
  have entitled : ∀ one ∈ occurred, ∀ noted ∈ one.calls observer, ∃ inventory,
      one.Entitled inventory ∧ noted.call.Proper (Reply.itemsOf inventory) := by
    intro one member noted made
    have lineCounted := counted one member
    obtain ⟨before, act, rfl⟩ := exists_of_mem_occurrences member
    rw [Occurrence.calls_eq] at made
    exact entitled_of_mem_callsOf made lineCounted observer
  refine ⟨?_, entitled, ?_⟩
  · have noted := run_noting observer start [] acts
    exact congrArg (fun stage => stage.bench.state.calls) noted
  · intro one member barred
    rw [List.eq_nil_iff_forall_not_mem]
    intro noted made
    obtain ⟨inventory, allowed, _⟩ := entitled one member noted made
    exact allowed.not_barred barred

/-- A request for doors, the analysis that recommends two of them, and their way to
the quote. -/
def doorSale : List (SessionAct Unit) :=
  let shop : TurnContext Unit := ⟨.list [.dict [("id", .text "D-1")]], .idle, .null⟩
  [.send shop "I need a door", .answer (.analysis twoDoors), .addBom shop]

/-- The doors are put on the quote by a proper call. -/
theorem run_calls_are_entitled_doorSale :
    let start : Stage Unit := ofSession (.fresh .standard) ⟨(), .nowhere, []⟩
    let occurred := start.occurrences .none doorSale
    (∀ one ∈ occurred, ∀ bom, one.before.session.pending = some bom →
      ∀ line ∈ bom.lines, ∀ s, line.quantity ≠ .text s) ∧
    ∃ one ∈ occurred, ∃ noted ∈ one.calls .none, ∃ inventory,
      one.Entitled inventory ∧ noted.call.Proper (Reply.itemsOf inventory) := by
  intro start occurred
  have whole : (occurred.all fun one => one.before.session.pending.all fun bom =>
      bom.lines.all fun line => line.quantity.typeName == "int") = true := by decide +kernel
  have called : (occurred.flatMap (Occurrence.calls .none)).isEmpty = false := by decide +kernel
  have counted : ∀ one ∈ occurred, ∀ bom, one.before.session.pending = some bom →
      ∀ line ∈ bom.lines, ∀ s, line.quantity ≠ .text s := by
    intro one member bom waiting line among s text
    have reviewed := List.all_eq_true.1 whole one member
    rw [waiting] at reviewed
    have named := List.all_eq_true.1 reviewed line among
    have textual : ((Value.text s).typeName == "int") = false := by
      have fixed : (Value.text s).typeName = "str" := rfl
      rw [fixed]
      decide
    rw [text, textual] at named
    cases named
  obtain ⟨_, entitled, _⟩ :=
    run_calls_are_entitled .none .standard ⟨(), .nowhere, []⟩ doorSale counted
  have nonempty : occurred.flatMap (Occurrence.calls .none) ≠ [] := by
    intro nothing
    rw [nothing] at called
    cases called
  obtain ⟨noted, member⟩ := List.exists_mem_of_ne_nil _ nonempty
  obtain ⟨one, among, made⟩ := List.mem_flatMap.1 member
  exact ⟨counted, one, among, noted, made, entitled one among noted made⟩

end Stage

end QuoteDesk
