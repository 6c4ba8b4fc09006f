import QuoteDesk.Proofs.Reply.Calls

/-!
# Two ways to an addition

An addition is asked for by a directive or built from an article number and a quantity.  The
same rules judge both, with the same refusals.  They part in what they keep: a directive gives
the number that its quantity stands for, while a command that is built keeps a text of digits
as it is.
-/

namespace QuoteDesk

open Number Text

/-! ## Commands that are built -/

variable {sku : String} {n : Int}

theorem buildAdd_of_not_isSku (bad : ¬ IsSku sku) (quantity : Value) :
    Command.buildAdd (.text sku) quantity =
      .error (.refusedCommand .invalidSku ("Invalid SKU " ++ quoted sku)) := by
  rw [Command.buildAdd, checkSku_of_not_isSku bad]
  rfl

theorem buildAdd_of_outside
    (isSku : IsSku sku) (outside : ¬ (minQuantity ≤ n ∧ n ≤ maxQuantity))
    (short : n.natAbs < 10 ^ digitLimit) :
    Command.buildAdd (.text sku) (.int n) = .error (.refusedCommand .invalidQuantity
      s!"Quantity {integerText n} outside {minQuantity}..{maxQuantity}") := by
  rw [Command.buildAdd, checkSku_of_isSku isSku, readQuantity_int_of_outside outside short]
  rfl

theorem buildAdd_of_fitting (isSku : IsSku sku) (least : 1 ≤ n) (most : n ≤ 1000) :
    Command.buildAdd (.text sku) (.int n) = .ok (.add sku (.number n)) := by
  have within : minQuantity ≤ n ∧ n ≤ maxQuantity := ⟨least, most⟩
  rw [Command.buildAdd, checkSku_of_isSku isSku, readQuantity, checkRange, if_pos within]
  rfl

/-! ## Quantities -/

/-- A quantity of few enough characters or digits to be read and written: a text or a whole
number. -/
inductive Value.Countable : Value → Prop
  | text {written : String} : written.length ≤ digitLimit → Countable (.text written)
  | int {n : Int} : n.natAbs < 10 ^ digitLimit → Countable (.int n)

/-- The number that a quantity stands for. -/
inductive Value.Counts : Value → Int → Prop
  | text {written : String} {n : Nat} : IsQuantity written n → Counts (.text written) n
  | int {n : Int} : minQuantity ≤ n → n ≤ maxQuantity → Counts (.int n) n

variable {quantity : Value}

theorem Value.Counts.range (counts : quantity.Counts n) : 1 ≤ n ∧ n ≤ 1000 := by
  cases counts with
  | text isQuantity =>
      have range := isQuantity.range
      omega
  | int least most => exact ⟨least, most⟩

theorem readQuantity_of_counts (counts : quantity.Counts n) (countable : quantity.Countable) :
    readQuantity quantity = .ok n := by
  cases counts with
  | text isQuantity =>
      cases countable with
      | text short => exact readQuantity_of_isQuantity isQuantity short
  | int least most => rw [readQuantity, checkRange, if_pos ⟨least, most⟩]

theorem readQuantity_of_not_counts
    (bad : ∀ n, ¬ quantity.Counts n) (countable : quantity.Countable) :
    ∃ message, readQuantity quantity = .error (.refusedCommand .invalidQuantity message) := by
  cases countable with
  | text short =>
      refine ⟨_, readQuantity_of_not_isQuantity ?_ fun _ => short⟩
      intro n isQuantity
      exact bad n (.text isQuantity)
  | int short =>
      refine ⟨_, readQuantity_int_of_outside ?_ short⟩
      intro within
      exact bad _ (.int within.1 within.2)

theorem toValue_ofValue (counts : quantity.Counts n) :
    (Amount.ofValue quantity n).toValue = quantity := by
  cases counts with
  | text isQuantity => rfl
  | int least most => rfl

/-! ## The two ways -/

namespace Directive

/-- What becomes of a directive that adds, and of the command that is built from its fields: both
add the article, with the number or with what was given, or both are refused alike. -/
inductive Parallel (directive : Directive) : Prop
  | added {sku : String} {n : Int} {amount : Amount} :
      directive.sku = .text sku →
      IsSku sku →
      directive.quantity.Counts n →
      (∀ {σ : Type} (bench : Bench σ),
        directive.check bench = (.ok (some (.add sku (.number n))), bench)) →
      Command.buildAdd directive.sku directive.quantity = .ok (.add sku amount) →
      amount.toValue = directive.quantity →
      Parallel directive
  | refused {reason : DropReason} {message : String} :
      (∀ sku, directive.sku = .text sku → IsSku sku → ∀ n, ¬ directive.quantity.Counts n) →
      (∀ {σ : Type} (bench : Bench σ),
        directive.check bench = (.ok none, bench.report (directive.rejection reason message))) →
      Command.buildAdd directive.sku directive.quantity = .error (.refusedCommand reason message) →
      Parallel directive

/-- A directive and the command built from its fields come to the same: there is one when there is
the other, the two are equal, and calls are made for whole numbers in the range alone. -/
structure Agrees (directive : Directive) : Prop where
  together : ∀ {σ : Type} (bench : Bench σ),
    (∃ command, (directive.check bench).1 = .ok (some command)) ↔
      ∃ command, Command.buildAdd directive.sku directive.quantity = .ok command
  same : ∀ {σ : Type} (bench : Bench σ) (asked built : Command),
    (directive.check bench).1 = .ok (some asked) →
      Command.buildAdd directive.sku directive.quantity = .ok built → asked = built
  counted : ∀ built, Command.buildAdd directive.sku directive.quantity = .ok built →
    ∃ sku n, built = .add sku (.number n) ∧ 1 ≤ n ∧ n ≤ 1000
  called : ∀ built, Command.buildAdd directive.sku directive.quantity = .ok built →
    ∀ {σ : Type} (access : QuoteAccess σ) (catalog : Catalog) (bench : Bench σ),
      ∀ noted ∈ Command.callsOf access catalog bench [built],
        ∃ item n, noted.call = .add item (.number n) ∧ 1 ≤ n ∧ n ≤ 1000

variable {directive : Directive}

theorem check_of_ofDirective_ok
    {σ : Type} {asked : Option Command} (asks : Command.ofDirective directive = .ok asked)
    (bench : Bench σ) : directive.check bench = (.ok asked, bench) := by
  rw [check, asks]

theorem check_of_ofDirective_refused
    {σ : Type} {reason : DropReason} {message : String}
    (refused : Command.ofDirective directive = .error (.refusedCommand reason message))
    (bench : Bench σ) :
    directive.check bench = (.ok none, bench.report (directive.rejection reason message)) := by
  rw [check, refused]

theorem parallel_of_countable
    (kind : directive.kind = .addToQuote) (article : directive.sku = .text sku)
    (countable : directive.quantity.Countable) : directive.Parallel := by
  by_cases isSku : IsSku sku
  · have asks := ofDirective_of_add kind article isSku
    by_cases counts : ∃ n, directive.quantity.Counts n
    · obtain ⟨n, counts⟩ := counts
      have taken := readQuantity_of_counts counts countable
      rw [taken] at asks
      have built : Command.buildAdd directive.sku directive.quantity =
          .ok (.add sku (.ofValue directive.quantity n)) := by
        rw [Command.buildAdd, article, checkSku_of_isSku isSku, taken]
        rfl
      exact .added article isSku counts (check_of_ofDirective_ok asks) built
        (toValue_ofValue counts)
    · have bad : ∀ n, ¬ directive.quantity.Counts n := not_exists.1 counts
      obtain ⟨message, refused⟩ := readQuantity_of_not_counts bad countable
      rw [refused] at asks
      have unbuilt : Command.buildAdd directive.sku directive.quantity =
          .error (.refusedCommand .invalidQuantity message) := by
        rw [Command.buildAdd, article, checkSku_of_isSku isSku, refused]
        rfl
      exact .refused (fun _ _ _ => bad) (check_of_ofDirective_refused asks) unbuilt
  · have asks : Command.ofDirective directive =
        .error (.refusedCommand .invalidSku ("Invalid SKU " ++ quoted sku)) := by
      simp only [Command.ofDirective, kind, article, checkSku_of_not_isSku isSku]
      rfl
    refine .refused ?_ (check_of_ofDirective_refused asks) ?_
    · intro other named good
      rw [article] at named
      cases named
      exact absurd good isSku
    · rw [article]
      exact buildAdd_of_not_isSku isSku directive.quantity

theorem agrees_of_refused
    {reason : DropReason} {message : String}
    (check : ∀ {σ : Type} (bench : Bench σ), (directive.check bench).1 = .ok none)
    (refused : Command.buildAdd directive.sku directive.quantity =
      .error (.refusedCommand reason message)) :
    directive.Agrees where
  together bench := by
    rw [check, refused]
    apply iff_of_false
    · intro asked
      cases asked.choose_spec
    · intro built
      cases built.choose_spec
  same bench asked built asks made := by cases refused.symm.trans made
  counted built made := by cases refused.symm.trans made
  called built made := by cases refused.symm.trans made

theorem agrees_of_added
    (check : ∀ {σ : Type} (bench : Bench σ),
      (directive.check bench).1 = .ok (some (.add sku (.number n))))
    (made : Command.buildAdd directive.sku directive.quantity = .ok (.add sku (.number n)))
    (range : 1 ≤ n ∧ n ≤ 1000) : directive.Agrees where
  together bench := by
    rw [check, made]
    exact iff_of_true ⟨_, rfl⟩ ⟨_, rfl⟩
  same bench asked built asks same := by
    rw [check] at asks
    cases asks
    cases made.symm.trans same
    rfl
  counted built same := by
    cases made.symm.trans same
    exact ⟨sku, n, rfl, range⟩
  called built same _ access catalog bench noted member := by
    cases made.symm.trans same
    obtain ⟨command, among, asked⟩ := Command.asked_of_mem_callsOf member
    cases List.mem_singleton.1 among
    obtain ⟨item, _, call⟩ := Option.map_eq_some_iff.1 asked
    exact ⟨item, n, call.symm, range⟩

/-- Only a text of digits that is accepted tells the two ways apart. -/
theorem Parallel.agrees_iff (parallel : directive.Parallel) :
    directive.Agrees ↔
      ∀ sku written n, directive.sku = .text sku → IsSku sku →
        directive.quantity = .text written → ¬ IsQuantity written n := by
  cases parallel with
  | refused nothing check refused =>
      refine iff_of_true ?_ ?_
      · apply agrees_of_refused _ refused
        intro σ bench
        rw [check]
      · intro sku written n article isSku digits isQuantity
        apply nothing sku article isSku n
        rw [digits]
        exact .text isQuantity
  | @added sku n amount article isSku counts check made kept =>
      constructor
      · intro agrees other written m _ _ digits _
        obtain ⟨_, _, same, _⟩ := agrees.counted _ made
        cases same
        rw [digits] at kept
        cases kept
      · intro noText
        have number : amount = .number n := by
          rw [← kept] at counts
          cases amount with
          | number m =>
              cases counts
              rfl
          | numeral digits =>
              cases counts with
              | text isQuantity =>
                  exact absurd isQuantity (noText sku digits _ article isSku kept.symm)
        rw [number] at made
        apply agrees_of_added _ made counts.range
        intro σ bench
        rw [check]

/-- The two ways judge alike.  They come to the same but for an addition that is accepted with a
text of digits, which a directive turns into its number and a command that is built keeps. -/
theorem parallel_and_agrees_iff
    (kind : directive.kind = .addToQuote) (article : directive.sku = .text sku)
    (countable : directive.quantity.Countable) :
    directive.Parallel ∧
      (directive.Agrees ↔
        (IsSku sku → ∀ written n, directive.quantity = .text written →
          ¬ IsQuantity written n)) := by
  have parallel := parallel_of_countable kind article countable
  refine ⟨parallel, parallel.agrees_iff.trans ?_⟩
  constructor
  · intro noText isSku written n
    exact noText sku written n article isSku
  · intro noText other written n named isSku
    rw [article] at named
    cases named
    exact noText isSku written n

/-- A directive that adds seven units, written with zeros in front. -/
def paddedSeven : Directive :=
  ⟨.addToQuote, [("SKU", .text "A-1"), ("QUANTITY", .text "007")], ⟨0, 1⟩⟩

theorem parallel_paddedSeven :
    paddedSeven.kind = .addToQuote ∧ paddedSeven.sku = .text "A-1" ∧
      paddedSeven.quantity.Countable ∧ paddedSeven.Parallel ∧
      (paddedSeven.Agrees ↔
        (IsSku "A-1" → ∀ written n, paddedSeven.quantity = .text written →
          ¬ IsQuantity written n)) :=
  ⟨rfl, rfl, .text (by decide), parallel_and_agrees_iff rfl rfl (.text (by decide))⟩

/-- The command built from its fields keeps the digits, and adds them as a text. -/
theorem not_agrees_paddedSeven :
    paddedSeven.quantity.Countable ∧
      Command.ofDirective paddedSeven = .ok (some (.add "A-1" (.number 7))) ∧
      Command.buildAdd paddedSeven.sku paddedSeven.quantity = .ok (.add "A-1" (.numeral "007")) ∧
      ¬ paddedSeven.Agrees := by
  have made : Command.buildAdd paddedSeven.sku paddedSeven.quantity =
      .ok (.add "A-1" (.numeral "007")) := rfl
  refine ⟨.text (by decide), rfl, made, ?_⟩
  intro agrees
  obtain ⟨_, _, same, _⟩ := agrees.counted _ made
  cases same

end Directive

end QuoteDesk
