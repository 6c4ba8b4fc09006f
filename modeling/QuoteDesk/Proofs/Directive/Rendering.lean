import QuoteDesk.Proofs.Directive.Checking

/-!
# Rendered commands are read back

A command with a whole number as its quantity is rendered as a word of the
written form, and the directive of that word asks for the command again.  The
words may stand between any texts that hold no directive by themselves.  A word
opens with a bracket and no mark goes beyond an opening bracket, so what
surrounds a word neither swallows it nor adds a mark of its own.
-/

namespace QuoteDesk

open Number Text

/-- A command as a program builds it from a whole number: its article number is
one, and its quantity lies in the range. -/
inductive Command.Plain : Command → Prop
  | add {sku : String} {n : Int} :
      IsSku sku →
      minQuantity ≤ n →
      n ≤ maxQuantity →
      Plain (.add sku (.number n))
  | remove {sku : String} :
      IsSku sku →
      Plain (.remove sku)

/-! ## The characters of article numbers and quantities -/

theorem isSkuChar_code
    {c : Char} (isSkuChar : isSkuChar c = true) :
    (65 ≤ c.toNat ∧ c.toNat ≤ 90) ∨ (48 ≤ c.toNat ∧ c.toNat ≤ 57) ∨ c.toNat = 45 := by
  simp only [QuoteDesk.isSkuChar, isAsciiDigit, Bool.or_eq_true, Bool.and_eq_true,
    decide_eq_true_eq, beq_iff_eq] at isSkuChar
  rcases isSkuChar with (⟨lower, upper⟩ | ⟨lower, upper⟩) | rfl
  · exact Or.inl ⟨lower, upper⟩
  · exact Or.inr (Or.inl ⟨lower, upper⟩)
  · exact Or.inr (Or.inr rfl)

theorem isBlank_of_isSkuChar
    {c : Char} (isSkuChar : isSkuChar c = true) :
    isBlank c = false := by
  have code := isSkuChar_code isSkuChar
  simp only [isBlank, Bool.or_eq_false_iff, Bool.and_eq_false_iff, decide_eq_false_iff_not,
    beq_eq_false_iff_ne]
  omega

theorem inField_of_isSkuChar
    {c : Char} (isSkuChar : isSkuChar c = true) :
    Mark.inField c = true := by
  have code := isSkuChar_code isSkuChar
  have differs : ∀ d : Char, d.toNat = 93 ∨ d.toNat = 44 ∨ d.toNat = 91 → c ≠ d := by
    rintro d special rfl
    omega
  simp only [Mark.inField, Bool.and_eq_true, bne_iff_ne]
  exact ⟨⟨differs ']' (by decide), differs ',' (by decide)⟩, differs '[' (by decide)⟩

theorem trim_of_isSkuChar
    {chars : List Char} (skuChars : ∀ c ∈ chars, isSkuChar c = true) :
    trim chars = chars := by
  apply trim_eq_self
  apply isTrimmed_of_ink
  intro c member
  exact isBlank_of_isSkuChar (skuChars c member)

theorem isField_of_isSkuChar
    {chars : List Char} (skuChars : ∀ c ∈ chars, isSkuChar c = true) :
    Mark.IsField chars := by
  intro c member
  exact inField_of_isSkuChar (skuChars c member)

theorem isSkuChar_of_isAsciiDigit
    {c : Char} (digit : isAsciiDigit c = true) :
    isSkuChar c = true := by
  simp [isSkuChar, digit]

/-! ## A rendered command -/

namespace Directive

theorem sku_ofMark_add (sku quantity : List Char) (start size : Nat) :
    (ofMark (.add sku quantity) start size).sku = .text (String.ofList (trim sku)) := rfl

theorem quantity_ofMark_add (sku quantity : List Char) (start size : Nat) :
    (ofMark (.add sku quantity) start size).quantity =
      .text (String.ofList (trim quantity)) := rfl

theorem sku_ofMark_remove (sku : List Char) (start size : Nat) :
    (ofMark (.remove sku) start size).sku = .text (String.ofList (trim sku)) := rfl

end Directive

namespace Command

theorem isQuantity_integerText
    {n : Nat} (lower : 1 ≤ n) (upper : n ≤ 1000) :
    IsQuantity (integerText n) n where
  nonempty := by
    rw [toList_integerText]
    exact Nat.toDigits_ne_nil
  digits := by
    rw [toList_integerText]
    exact fun c member => isAsciiDigit_of_mem_toDigits member
  value := by
    rw [toList_integerText, decimalValue_toDigits]
  range := ⟨lower, upper⟩

theorem length_integerText_le
    {n : Nat} (upper : n ≤ 1000) :
    (integerText n).length ≤ digitLimit := by
  have short : decimalLength n ≤ 4 :=
    (decimalLength_le_iff (by decide)).2 (by omega)
  rw [← String.length_toList, toList_integerText]
  exact Nat.le_trans short (by decide)

theorem render_add (sku : String) (n : Int) :
    render (.add sku (.number n)) =
      Mark.opening ++ Mark.addName ++ [' '] ++ Mark.skuName ++ sku.toList ++ [','] ++ [' '] ++
        Mark.quantityName ++ (integerText n).toList ++ [']'] := by
  have head : "[ACTION:ADD_TO_QUOTE, SKU:".toList =
      Mark.opening ++ Mark.addName ++ [' '] ++ Mark.skuName := by decide
  have middle : ", QUANTITY:".toList = [','] ++ [' '] ++ Mark.quantityName := by decide
  have form : render (.add sku (.number n)) =
      "[ACTION:ADD_TO_QUOTE, SKU:".toList ++ sku.toList ++ ", QUANTITY:".toList ++
        (integerText n).toList ++ [']'] := rfl
  rw [form, head, middle]
  simp only [List.append_assoc]

theorem render_remove (sku : String) :
    render (.remove sku) =
      Mark.opening ++ Mark.removeName ++ [' '] ++ Mark.skuName ++ sku.toList ++ [']'] := by
  have head : "[ACTION:REMOVE_FROM_QUOTE, SKU:".toList =
      Mark.opening ++ Mark.removeName ++ [' '] ++ Mark.skuName := by decide
  have form : render (.remove sku) =
      "[ACTION:REMOVE_FROM_QUOTE, SKU:".toList ++ sku.toList ++ [']'] := rfl
  rw [form, head]

/-- A plain command is rendered as a word whose directive asks for it. -/
theorem Plain.reads_back
    {command : Command} (plain : command.Plain) :
    ∃ mark, Mark.Spells mark command.render ∧
      ∀ start size, ofDirective (Directive.ofMark mark start size) = .ok (some command) := by
  have space : Mark.IsGap [' '] := by
    intro c member
    cases List.mem_singleton.1 member
    rfl
  cases plain with
  | @add sku n isSku lower upper =>
      simp only [minQuantity, maxQuantity] at lower upper
      obtain ⟨n, rfl⟩ : ∃ m : Nat, n = m := ⟨n.toNat, by omega⟩
      have skuChars : ∀ c ∈ sku.toList, isSkuChar c = true :=
        List.all_eq_true.1 isSku.2
      have quantity : IsQuantity (integerText n) n :=
        isQuantity_integerText (by omega) (by omega)
      have digitChars : ∀ c ∈ (integerText n).toList, isSkuChar c = true :=
        fun c member => isSkuChar_of_isAsciiDigit (quantity.digits c member)
      refine ⟨.add sku.toList (integerText n).toList, ?_, ?_⟩
      · rw [render_add]
        exact .add (isField_of_isSkuChar skuChars) (isField_of_isSkuChar digitChars) space space
      · intro start size
        have skuText : (Directive.ofMark (.add sku.toList (integerText n).toList) start size).sku =
            .text sku := by
          rw [Directive.sku_ofMark_add, trim_of_isSkuChar skuChars, String.ofList_toList]
        have quantityText :
            (Directive.ofMark (.add sku.toList (integerText n).toList) start size).quantity =
              .text (integerText n) := by
          rw [Directive.quantity_ofMark_add, trim_of_isSkuChar digitChars, String.ofList_toList]
        rw [Directive.ofDirective_of_add rfl skuText isSku, quantityText,
          readQuantity_of_isQuantity quantity (length_integerText_le (by omega))]
        rfl
  | @remove sku isSku =>
      have skuChars : ∀ c ∈ sku.toList, isSkuChar c = true :=
        List.all_eq_true.1 isSku.2
      refine ⟨.remove sku.toList, ?_, ?_⟩
      · rw [render_remove]
        exact .remove (isField_of_isSkuChar skuChars) space
      · intro start size
        have skuText : (Directive.ofMark (.remove sku.toList) start size).sku = .text sku := by
          rw [Directive.sku_ofMark_remove, trim_of_isSkuChar skuChars, String.ofList_toList]
        exact Directive.ofDirective_of_remove rfl skuText isSku

end Command

/-! ## Words between quiet texts -/

namespace Directive

open Mark

theorem scanFrom_skip
    {chars : List Char} {skip : Nat} (inside : skip ≤ chars.length) (index : Nat) :
    scanFrom index skip chars = scanFrom (index + skip) 0 (chars.drop skip) := by
  induction chars generalizing index skip with
  | nil =>
      rw [Nat.le_zero.1 inside]
      rfl
  | cons c rest inductionHypothesis =>
      cases skip with
      | zero => rfl
      | succ skip =>
          have insideRest : skip ≤ rest.length := Nat.le_of_succ_le_succ inside
          rw [scanFrom, if_pos (Nat.succ_pos skip), Nat.add_sub_cancel,
            inductionHypothesis insideRest, List.drop_succ_cons, Nat.add_assoc, Nat.add_comm 1]

/-- A word in front is taken whole. -/
theorem scanFrom_word
    {mark : Mark} {word : List Char} (spelled : Spells mark word)
    (index : Nat) (after : List Char) :
    scanFrom index 0 (word ++ after) =
      ofMark mark index word.length :: scanFrom (index + word.length) 0 after := by
  have found := split?_of_spells spelled after
  obtain ⟨inner, rfl, _⟩ := spelled.opens_once
  have size : (inner ++ after).length + 1 - after.length = inner.length + 1 := by
    rw [List.length_append]
    omega
  have inside : inner.length ≤ (inner ++ after).length := by
    rw [List.length_append]
    omega
  have skipped := scanFrom_skip inside (index + 1)
  rw [List.cons_append] at found ⊢
  rw [scanFrom, if_neg (Nat.lt_irrefl 0), found]
  simp only [size, Nat.add_sub_cancel, skipped, List.drop_left, List.length_cons,
    Nat.add_assoc, Nat.add_comm 1]

/-- Where a text without directives ends at an opening bracket, scanning goes on
behind it. -/
theorem scanFrom_quiet
    {quiet : List Char} (nothing : scan quiet = []) (index : Nat) (after : List Char) :
    scanFrom index 0 (quiet ++ '[' :: after) =
      scanFrom (index + quiet.length) 0 ('[' :: after) := by
  induction quiet generalizing index with
  | nil => rfl
  | cons c rest inductionHypothesis =>
      have restNothing : scan rest = [] :=
        @scan_eq_nil_of_append [c] rest [] (by simpa using nothing)
      -- A mark that starts here ends in the quiet text, which holds none, or goes
      -- beyond the bracket behind it, which no mark does.
      have noMark : split? (c :: rest ++ '[' :: after) = none := by
        rw [Option.eq_none_iff_forall_not_mem]
        rintro ⟨mark, behind⟩ found
        obtain ⟨stop, stands, _⟩ := standsAt_zero_iff.1 found
        by_cases within : stop ≤ (c :: rest).length
        · have standsWithin : StandsAt (c :: rest) mark 0 stop := by
            refine ⟨within, ?_⟩
            have spelled := stands.spelled
            rwa [List.drop_zero, Nat.sub_zero, List.take_append_of_le_length within] at spelled
          exact scan_eq_nil_iff.1 nothing mark 0 stop standsWithin
        · have opened : (c :: rest ++ '[' :: after)[(c :: rest).length]? = some '[' := by
            rw [List.getElem?_append_right (Nat.le_refl _), Nat.sub_self]
            rfl
          exact stands.not_opens (by simp) (Nat.lt_of_not_le within) opened
      rw [List.cons_append] at noMark ⊢
      rw [scanFrom, if_neg (Nat.lt_irrefl 0), noMark]
      simp only [inductionHypothesis restNothing, List.length_cons, Nat.add_assoc, Nat.add_comm 1]

/-- A text without directives has none wherever it starts. -/
theorem scanFrom_eq_nil
    {chars : List Char} (nothing : scan chars = []) (index : Nat) :
    scanFrom index 0 chars = [] := by
  rw [List.eq_nil_iff_forall_not_mem]
  intro directive member
  obtain ⟨mark, start, stop, stands, _⟩ := mem_scanFrom.1 member
  exact scan_eq_nil_iff.1 nothing mark start stop stands

end Directive

/-- A text followed by rendered commands, each with a text behind it. -/
def woven (first : List Char) (pieces : List (Command × List Char)) : List Char :=
  first ++ pieces.flatMap fun piece => piece.1.render ++ piece.2

theorem woven_cons
    (first : List Char) (piece : Command × List Char) (rest : List (Command × List Char)) :
    woven first (piece :: rest) = first ++ (piece.1.render ++ woven piece.2 rest) := by
  simp only [woven, List.flatMap_cons, List.append_assoc]

/-- Scanning finds the directives of the rendered commands and no others. -/
theorem scanFrom_woven
    {first : List Char} {pieces : List (Command × List Char)}
    (plain : ∀ piece ∈ pieces, piece.1.Plain)
    (firstQuiet : Directive.scan first = [])
    (quiet : ∀ piece ∈ pieces, Directive.scan piece.2 = []) (index : Nat) :
    List.Forall₂ (fun directive command => Command.ofDirective directive = .ok (some command))
      (Directive.scanFrom index 0 (woven first pieces)) (pieces.map Prod.fst) := by
  induction pieces generalizing first index with
  | nil =>
      have nothing := Directive.scanFrom_eq_nil firstQuiet index
      simp only [woven, List.flatMap_nil, List.append_nil, nothing, List.map_nil]
      exact .nil
  | cons piece rest inductionHypothesis =>
      obtain ⟨mark, spelled, asks⟩ := (plain piece List.mem_cons_self).reads_back
      have restWoven := inductionHypothesis
        (fun other member => plain other (List.mem_cons_of_mem piece member))
        (quiet piece List.mem_cons_self)
        (fun other member => quiet other (List.mem_cons_of_mem piece member))
      obtain ⟨inner, opens, _⟩ := spelled.opens_once
      rw [woven_cons, opens, List.cons_append, Directive.scanFrom_quiet firstQuiet,
        ← List.cons_append, ← opens, Directive.scanFrom_word spelled]
      exact .cons (asks _ _) (restWoven _)

/-- A command for each directive, all of them in order. -/
theorem commands_zip
    {directives : List Directive} {commands : List Command}
    (length : directives.length = commands.length) :
    Checked.commands ⟨directives.zip (commands.map some), none⟩ = commands := by
  have paired : (directives.zip (commands.map some)).map Prod.snd = commands.map some :=
    List.map_snd_zip (by rw [length, List.length_map])
  calc Checked.commands ⟨directives.zip (commands.map some), none⟩
      = ((directives.zip (commands.map some)).map Prod.snd).filterMap id := by
        rw [List.filterMap_map]
        rfl
    _ = (commands.map some).filterMap id := by rw [paired]
    _ = commands := by
        rw [List.filterMap_map]
        exact List.filterMap_some

/-- Directives that ask for commands give them, and nothing is reported. -/
theorem checkAll_of_asks
    {σ : Type} {directives : List Directive} {commands : List Command}
    (asks : List.Forall₂
      (fun directive command => Command.ofDirective directive = .ok (some command))
      directives commands)
    (bench : Bench σ) :
    checkAll bench directives = (⟨directives.zip (commands.map some), none⟩, bench) := by
  induction asks with
  | nil => rfl
  | @cons directive command rest commands asked _ inductionHypothesis =>
      have checked : directive.check bench = (.ok (some command), bench) := by
        rw [Directive.check, asked]
      rw [checkAll, checked]
      simp only [inductionHypothesis, List.map_cons, List.zip_cons_cons]

end QuoteDesk
