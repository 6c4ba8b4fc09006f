import QuoteDesk.Proofs.Directive.Rendering
import QuoteDesk.Proofs.Results
import QuoteDesk.Session.Bom

/-!
# Commands that are built keep the rules

Whatever it is built from, a command is valid.  The commands of directives are plain whatever
the directives say, and so are those of the lines of a bill of materials whose quantities are
no texts.
-/

namespace QuoteDesk

variable {σ : Type}

namespace Command

theorem Plain.valid {command : Command} (plain : command.Plain) : command.Valid := by
  cases plain with
  | add isSku least most => exact ⟨isSku, least, most⟩
  | remove isSku => exact isSku

theorem plain_add_of_checked
    {sku quantity : Value} {word : String} {n : Int}
    (checked : checkSku sku = .ok word) (taken : readQuantity quantity = .ok n) :
    Plain (.add word (.number n)) := by
  obtain ⟨_, isSku⟩ := checkSku_eq_ok checked
  obtain ⟨⟨lower, upper⟩, _⟩ := readQuantity_eq_ok taken
  exact .add isSku lower upper

theorem plain_of_ofDirective
    {directive : Directive} {command : Command}
    (asks : ofDirective directive = .ok (some command)) : command.Plain := by
  unfold ofDirective at asks
  cases kind : directive.kind with
  | addToQuote =>
      rw [kind] at asks
      obtain ⟨word, checked, rest⟩ := exists_of_bind_eq_ok asks
      obtain ⟨n, taken, built⟩ := exists_of_bind_eq_ok rest
      cases built
      exact plain_add_of_checked checked taken
  | removeFromQuote =>
      rw [kind] at asks
      obtain ⟨word, checked, built⟩ := exists_of_bind_eq_ok asks
      cases built
      exact .remove (checkSku_eq_ok checked).2
  | other name =>
      rw [kind] at asks
      cases asks

/-- An addition that is built keeps the rules also where its quantity stays a text of digits. -/
theorem valid_of_buildAdd
    {sku quantity : Value} {command : Command} (built : buildAdd sku quantity = .ok command) :
    command.Valid := by
  obtain ⟨word, checked, rest⟩ := exists_of_bind_eq_ok built
  obtain ⟨n, taken, same⟩ := exists_of_bind_eq_ok rest
  obtain ⟨_, isSku⟩ := checkSku_eq_ok checked
  obtain ⟨inRange, counted⟩ := readQuantity_eq_ok taken
  cases same
  rcases counted with rfl | ⟨digits, rfl, isNumeral, rfl⟩
  · exact ⟨isSku, inRange⟩
  · exact ⟨isSku, isNumeral, inRange⟩

theorem valid_of_buildRemove
    {sku : Value} {command : Command} (built : buildRemove sku = .ok command) :
    command.Valid := by
  obtain ⟨word, checked, same⟩ := exists_of_bind_eq_ok built
  cases same
  exact (checkSku_eq_ok checked).2

/-- A quantity that is no text is kept as the number that it is. -/
theorem plain_of_buildAdd
    {sku quantity : Value} {command : Command}
    (counted : ∀ s, quantity ≠ .text s) (built : buildAdd sku quantity = .ok command) :
    command.Plain := by
  obtain ⟨word, checked, rest⟩ := exists_of_bind_eq_ok built
  obtain ⟨n, taken, same⟩ := exists_of_bind_eq_ok rest
  have kept : Amount.ofValue quantity n = .number n := by
    unfold Amount.ofValue
    split
    · rename_i s
      exact absurd rfl (counted s)
    · rfl
  cases same
  rw [kept]
  exact plain_add_of_checked checked taken

end Command

theorem Directive.plain_of_check
    {directive : Directive} {bench next : Bench σ} {command : Command}
    (work : directive.check bench = (.ok (some command), next)) : command.Plain := by
  unfold check at work
  cases asks : Command.ofDirective directive with
  | ok given =>
      rw [asks] at work
      cases work
      exact Command.plain_of_ofDirective asks
  | error fault =>
      rw [asks] at work
      cases fault <;> cases work

/-- The commands of directives are plain. -/
theorem plain_of_mem_checkAll
    (bench : Bench σ) (directives : List Directive) :
    ∀ command ∈ (checkAll bench directives).1.commands, command.Plain := by
  induction directives generalizing bench with
  | nil =>
      intro command member
      cases member
  | cons directive rest inductionHypothesis =>
      rw [checkAll]
      rcases work : directive.check bench with ⟨fault | asked, next⟩
      · intro command member
        cases member
      · have restPlain := inductionHypothesis next
        rcases checkAll next rest with ⟨checked, last⟩
        cases asked with
        | none => exact restPlain
        | some first =>
            intro command member
            rcases List.mem_cons.1 member with same | later
            · rw [same]
              exact Directive.plain_of_check work
            · exact restPlain command later

/-- No directive leads to a command that breaks the rules. -/
theorem valid_of_mem_checkAll
    (bench : Bench σ) (directives : List Directive) :
    ∀ command ∈ (checkAll bench directives).1.commands, command.Valid :=
  fun command member => (plain_of_mem_checkAll bench directives command member).valid

/-! ## Bills of materials -/

namespace Stage

/-- The commands of a bill of materials are built from its lines. -/
theorem exists_built_of_mem_bomCommands
    {bench next : Bench σ} {before commands : List Command} {lines : List BomLine}
    (work : bomCommands bench before lines = (.ok commands, next)) :
    ∀ command ∈ commands, command ∈ before ∨
      ∃ line ∈ lines, Command.buildAdd line.sku line.quantity = .ok command := by
  induction lines generalizing bench before with
  | nil =>
      cases work
      intro command member
      exact .inl (List.mem_reverse.1 member)
  | cons line rest inductionHypothesis =>
      unfold bomCommands at work
      split at work
      · rename_i first built
        intro command member
        rcases inductionHypothesis work command member with earlier | ⟨other, among, later⟩
        · rcases List.mem_cons.1 earlier with rfl | earlier
          · exact .inr ⟨line, List.mem_cons_self, built⟩
          · exact .inl earlier
        · exact .inr ⟨other, List.mem_cons_of_mem line among, later⟩
      · intro command member
        rcases inductionHypothesis work command member with earlier | ⟨other, among, later⟩
        · exact .inl earlier
        · exact .inr ⟨other, List.mem_cons_of_mem line among, later⟩
      · cases work

variable {bench next : Bench σ} {commands : List Command} {lines : List BomLine}

/-- The commands of counted lines are plain. -/
theorem plain_of_mem_bomCommands
    (work : bomCommands bench [] lines = (.ok commands, next))
    (counted : ∀ line ∈ lines, ∀ s, line.quantity ≠ .text s) :
    ∀ command ∈ commands, command.Plain := by
  intro command member
  rcases exists_built_of_mem_bomCommands work command member with none | ⟨line, among, built⟩
  · cases none
  · exact Command.plain_of_buildAdd (counted line among) built

/-- No line leads to a command that breaks the rules, whatever its quantity is. -/
theorem valid_of_mem_bomCommands
    (work : bomCommands bench [] lines = (.ok commands, next)) :
    ∀ command ∈ commands, command.Valid := by
  intro command member
  rcases exists_built_of_mem_bomCommands work command member with none | ⟨line, among, built⟩
  · cases none
  · exact Command.valid_of_buildAdd built

end Stage

end QuoteDesk
