import QuoteDesk.Proofs.Directive.Judgement

/-!
# Checking follows the rules

Checking a directive comes to the verdict of the rules, unless its quantity has
too many digits to be read.  Checking all directives of a text reports the
refusals in order and gives the commands in order; the first quantity that
cannot be read ends it.
-/

namespace QuoteDesk

open Number Text

namespace Directive

variable {σ : Type} {directive : Directive}

/-- A word of digits in an addition of a proper article can be read when it is
not too long. -/
private theorem length_le_of_not_overlong
    (short : ∀ count, ¬ directive.Overlong count)
    {sku quantity : String} (kind : directive.kind = .addToQuote)
    (skuText : directive.sku = .text sku) (isSku : IsSku sku)
    (quantityText : directive.quantity = .text quantity)
    (digits : isDigits quantity = true) :
    quantity.length ≤ digitLimit := by
  by_cases long : digitLimit < quantity.length
  · exact absurd
      ⟨kind, ⟨sku, skuText, isSku⟩, ⟨quantity, quantityText, digits, rfl⟩, long⟩
      (short quantity.length)
  · exact Nat.le_of_not_lt long

theorem ofDirective_of_add
    {sku : String} (kind : directive.kind = .addToQuote)
    (skuText : directive.sku = .text sku) (isSku : IsSku sku) :
    Command.ofDirective directive =
      (readQuantity directive.quantity).map fun n => some (.add sku (.number n)) := by
  simp only [Command.ofDirective, kind, skuText, checkSku_of_isSku isSku]
  cases readQuantity directive.quantity <;> rfl

theorem ofDirective_of_remove
    {sku : String} (kind : directive.kind = .removeFromQuote)
    (skuText : directive.sku = .text sku) (isSku : IsSku sku) :
    Command.ofDirective directive = .ok (some (.remove sku)) := by
  simp only [Command.ofDirective, kind, skuText, checkSku_of_isSku isSku]
  rfl

/-- A check comes to the verdict of the rules. -/
theorem check_of_judged
    {verdict : Verdict} (judged : directive.Judged verdict)
    (written : directive.Written) (short : ∀ count, ¬ directive.Overlong count)
    (bench : Bench σ) :
    directive.check bench =
      (.ok verdict.command?, bench.reportAll verdict.diagnostic?.toList) := by
  cases judged with
  | @badSku sku skuText bad =>
      have refused : Command.ofDirective directive =
          .error (.refusedCommand .invalidSku ("Invalid SKU " ++ quoted sku)) := by
        rcases written with ⟨kind, _⟩ | ⟨kind, _⟩
        · simp only [Command.ofDirective, kind, skuText, checkSku_of_not_isSku bad]
          rfl
        · simp only [Command.ofDirective, kind, skuText, checkSku_of_not_isSku bad]
          rfl
      rw [check, refused]
      rfl
  | badQuantity kind skuText isSku quantityText bad =>
      have readable := length_le_of_not_overlong short kind skuText isSku quantityText
      rw [check, ofDirective_of_add kind skuText isSku, quantityText,
        readQuantity_of_not_isQuantity bad readable]
      rfl
  | add kind skuText isSku quantityText isQuantity =>
      have readable := length_le_of_not_overlong short kind skuText isSku quantityText
        isQuantity.isDigits
      rw [check, ofDirective_of_add kind skuText isSku, quantityText,
        readQuantity_of_isQuantity isQuantity readable]
      rfl
  | remove kind skuText isSku =>
      rw [check, ofDirective_of_remove kind skuText isSku]
      rfl

/-- A quantity of too many digits is no refusal but a fault. -/
theorem check_of_overlong
    {count : Nat} (overlong : directive.Overlong count) (bench : Bench σ) :
    directive.check bench = (.error (.number (.tooManyDigits count)), bench) := by
  obtain ⟨kind, ⟨sku, skuText, isSku⟩, ⟨quantity, quantityText, digits, rfl⟩, long⟩ :=
    overlong
  rw [check, ofDirective_of_add kind skuText isSku, quantityText,
    readQuantity_of_overlong digits long]
  rfl

end Directive

/-! ## All directives of a text -/

open Directive

theorem exists_judgements
    {directives : List Directive} (written : ∀ directive ∈ directives, directive.Written) :
    ∃ verdicts, List.Forall₂ Judged directives verdicts := by
  induction directives with
  | nil => exact ⟨[], .nil⟩
  | cons directive rest inductionHypothesis =>
      obtain ⟨verdict, judged⟩ := (written directive List.mem_cons_self).exists_judged
      obtain ⟨verdicts, restJudged⟩ := inductionHypothesis
        fun other member => written other (List.mem_cons_of_mem directive member)
      exact ⟨verdict :: verdicts, .cons judged restJudged⟩

/-- Without quantities that are too long, all directives are checked: the
commands are those of the directives accepted, and the refusals are reported. -/
theorem checkAll_of_judged
    {σ : Type} {directives : List Directive} {verdicts : List Verdict}
    (judged : List.Forall₂ Judged directives verdicts)
    (written : ∀ directive ∈ directives, directive.Written)
    (short : ∀ directive ∈ directives, ∀ count, ¬ directive.Overlong count)
    (bench : Bench σ) :
    (checkAll bench directives).1.failure = none ∧
      (checkAll bench directives).1.commands = verdicts.filterMap Verdict.command? ∧
      (checkAll bench directives).2 =
        bench.reportAll (verdicts.filterMap Verdict.diagnostic?) := by
  -- Every directive leaves a bench with its own diagnostic to the ones behind it.
  induction judged generalizing bench with
  | nil => exact ⟨rfl, rfl, rfl⟩
  | @cons directive verdict rest verdicts headJudged _ inductionHypothesis =>
      have headChecked := check_of_judged headJudged
        (written directive List.mem_cons_self) (short directive List.mem_cons_self) bench
      obtain ⟨noFailure, commands, reported⟩ := inductionHypothesis
        (fun other member => written other (List.mem_cons_of_mem directive member))
        (fun other member => short other (List.mem_cons_of_mem directive member))
        (bench.reportAll verdict.diagnostic?.toList)
      rw [checkAll, headChecked]
      refine ⟨noFailure, ?_, ?_⟩
      · rw [Checked.commands] at commands ⊢
        cases verdict with
        | refused diagnostic => exact commands
        | accepted command =>
            simp only [Verdict.command?, List.filterMap_cons, commands]
      · cases verdict with
        | refused diagnostic => exact reported
        | accepted command => exact reported

/-- The first quantity of too many digits ends the checks. -/
theorem checkAll_of_overlong
    {σ : Type} {before after : List Directive} {directive : Directive} {count : Nat}
    (written : ∀ earlier ∈ before, earlier.Written)
    (short : ∀ earlier ∈ before, ∀ count, ¬ earlier.Overlong count)
    (overlong : directive.Overlong count) (bench : Bench σ) :
    (checkAll bench (before ++ directive :: after)).1.failure =
        some (.number (.tooManyDigits count)) ∧
      (checkAll bench (before ++ directive :: after)).2.state = bench.state := by
  induction before generalizing bench with
  | nil =>
      rw [List.nil_append, checkAll, check_of_overlong overlong]
      exact ⟨rfl, rfl⟩
  | cons earlier rest inductionHypothesis =>
      obtain ⟨verdict, judged⟩ := (written earlier List.mem_cons_self).exists_judged
      have checked := check_of_judged judged
        (written earlier List.mem_cons_self) (short earlier List.mem_cons_self) bench
      obtain ⟨failure, state⟩ := inductionHypothesis
        (fun other member => written other (List.mem_cons_of_mem earlier member))
        (fun other member => short other (List.mem_cons_of_mem earlier member))
        (bench.reportAll verdict.diagnostic?.toList)
      rw [List.cons_append, checkAll, checked]
      exact ⟨failure, state.trans (Bench.reportAll_state bench _)⟩

theorem exists_first_overlong
    {directives : List Directive} {directive : Directive} {count : Nat}
    (member : directive ∈ directives) (overlong : directive.Overlong count) :
    ∃ before first after length,
      directives = before ++ first :: after ∧ first.Overlong length ∧
        ∀ earlier ∈ before, ∀ count, ¬ earlier.Overlong count := by
  classical
  induction directives with
  | nil => cases member
  | cons head rest inductionHypothesis =>
      by_cases headOverlong : ∃ length, head.Overlong length
      · obtain ⟨length, headOverlong⟩ := headOverlong
        exact ⟨[], head, rest, length, rfl, headOverlong, by simp⟩
      · have restMember : directive ∈ rest := by
          rcases List.mem_cons.1 member with rfl | restMember
          · exact absurd ⟨count, overlong⟩ headOverlong
          · exact restMember
        obtain ⟨before, first, after, length, rfl, firstOverlong, earlierShort⟩ :=
          inductionHypothesis restMember
        refine ⟨head :: before, first, after, length, rfl, firstOverlong, ?_⟩
        intro earlier earlierMember
        rcases List.mem_cons.1 earlierMember with rfl | beforeMember
        · exact not_exists.1 headOverlong
        · exact earlierShort earlier beforeMember

end QuoteDesk
