import QuoteDesk.Proofs.Reply.Fates

/-!
# Which faults end a reply

An inventory whose ids are texts always has a catalog.  Then only two things
end the processing of a text.  A call of the quote may fail, behind the calls of
the directives before it, and its fault is passed on.  Or some quantity has more
digits than are read; this fault comes from no call, and nothing of the text is
executed.
-/

namespace QuoteDesk

namespace Reply

variable {σ : Type} {context : TurnContext σ} {bench : Bench σ} {s : String}

/-- Every fault of processing a text is the fault of a call that was made. -/
def OnlyCallsFail (context : TurnContext σ) (bench : Bench σ) (s : String) : Prop :=
  ∀ fault, (process context bench (.text s)).1 = .error fault →
    ∃ noted ∈ callsOf context bench (.text s), noted.failure = some fault

/-- Every directive of a text has its fate whatever the others are, and the
calls of the fates are made in order: all of them succeed, or one fails behind
those before it and its fault ends the processing. -/
def CallsFollowFates (context : TurnContext σ) (bench : Bench σ) (s : String) : Prop :=
  ∃ fates,
    List.Forall₂ (Directive.Meets (itemsOf context.inventory))
        (Directive.scan s.toList) fates ∧
      ((∃ processed, (process context bench (.text s)).1 = .ok processed ∧
          callsOf context bench (.text s) =
            (fates.filterMap Directive.Fate.call?).map QuoteCall.succeeded) ∨
        ∃ fault earlier failing later,
          (process context bench (.text s)).1 = .error fault ∧
            fates.filterMap Directive.Fate.call? = earlier ++ failing :: later ∧
            callsOf context bench (.text s) =
              earlier.map QuoteCall.succeeded ++ [⟨failing, some fault⟩])

theorem catalogOf_of_hasTextIds
    {inventory : Value} (textIds : HasTextIds inventory) :
    ∃ catalog, catalogOf inventory = .ok catalog := by
  obtain ⟨items, offered, named⟩ := textIds
  obtain ⟨catalog, built⟩ := Catalog.ofItems_isOk
    fun item member => itemId_isOk_of_textId (named item member)
  refine ⟨catalog, ?_⟩
  simp only [catalogOf, offered, built, Except.mapError, bind, Except.bind]

/-! ## Without quantities that are too long -/

theorem callsFollowFates_of_short
    (textIds : HasTextIds context.inventory)
    (short : ∀ directive ∈ Directive.scan s.toList, ∀ count, ¬ directive.Overlong count) :
    CallsFollowFates context bench s := by
  by_cases empty : s = ""
  · subst empty
    exact ⟨[], List.Forall₂.nil, Or.inl ⟨_, rfl, rfl⟩⟩
  · obtain ⟨catalog, indexed⟩ := catalogOf_of_hasTextIds textIds
    obtain ⟨fates, commands, result, after, meet, _, calls, _, ran, ended, state, _⟩ :=
      @exists_run _ context.noting s catalog short indexed bench.noting
    refine ⟨fates, meet, ?_⟩
    rw [process_noting, callsOf, process_text _ _ empty, state, ended]
    cases result with
    | ok executed =>
        obtain ⟨_, made, _⟩ := Command.runAll_noting_ok ran
        refine Or.inl ⟨_, rfl, ?_⟩
        rw [made, calls, Bench.reportAll_state]
        rfl
    | error fault =>
        obtain ⟨earlier, failing, later, call, rfl, asked, made, _⟩ :=
          Command.runAll_noting_error ran
        refine Or.inr ⟨fault, earlier.filterMap (Command.call? catalog), call,
          later.filterMap (Command.call? catalog), rfl, ?_, ?_⟩
        · rw [calls, List.filterMap_append, List.filterMap_cons_some asked]
        · rw [made, Bench.reportAll_state]
          rfl

/-- Operations that never fail let every text be processed whose quantities can
be read. -/
theorem exists_returned
    (textIds : HasTextIds context.inventory)
    (short : ∀ directive ∈ Directive.scan s.toList, ∀ count, ¬ directive.Overlong count)
    (unfailing : ∀ state call, (context.access.make state call).failure = none) :
    ∃ processed, (process context bench (.text s)).1 = .ok processed := by
  by_cases empty : s = ""
  · subst empty
    exact ⟨_, rfl⟩
  · obtain ⟨catalog, indexed⟩ := catalogOf_of_hasTextIds textIds
    obtain ⟨_, commands, result, after, _, _, _, _, ran, ended, _⟩ :=
      exists_run short indexed bench
    obtain ⟨executed, last, finished⟩ :=
      Command.runAll_of_unfailing unfailing catalog _ [] commands
    cases ran.symm.trans finished
    rw [process_text _ _ empty, ended]
    exact ⟨_, rfl⟩

theorem onlyCallsFail_of_short
    (textIds : HasTextIds context.inventory)
    (short : ∀ directive ∈ Directive.scan s.toList, ∀ count, ¬ directive.Overlong count) :
    OnlyCallsFail context bench s := by
  intro fault ended
  obtain ⟨_, _, ⟨processed, returned, _⟩ | ⟨reason, _, failing, _, failed, _, made⟩⟩ :=
    @callsFollowFates_of_short σ context bench s textIds short
  · rw [ended] at returned
    cases returned
  · rw [ended] at failed
    cases failed
    refine ⟨⟨failing, some fault⟩, ?_, rfl⟩
    rw [made]
    exact List.mem_append_right _ List.mem_cons_self

/-! ## With quantities that are too long -/

/-- A quantity of too many digits ends the work before the first call. -/
theorem process_of_overlong
    {before after : List Directive} {directive : Directive} {count : Nat}
    (split : Directive.scan s.toList = before ++ directive :: after)
    (overlong : directive.Overlong count)
    (short : ∀ earlier ∈ before, ∀ count, ¬ earlier.Overlong count) :
    (process context bench (.text s)).1 = .error (.number (.tooManyDigits count)) ∧
      callsOf context bench (.text s) = [] ∧
      (process context bench (.text s)).2.state = bench.state := by
  have nonempty : s ≠ "" := by
    rintro rfl
    simp [Directive.scan, Directive.scanFrom] at split
  have plain := @processText_of_overlong σ context bench s before after directive count
    split overlong short
  have noting := @processText_of_overlong _ context.noting bench.noting s before after
    directive count split overlong short
  rw [callsOf, process_text _ _ nonempty, process_text _ _ nonempty, noting.2]
  exact ⟨plain.1, rfl, plain.2⟩

theorem short_of_onlyCallsFail
    (onlyCalls : OnlyCallsFail context bench s) :
    ∀ directive ∈ Directive.scan s.toList, ∀ count, ¬ directive.Overlong count := by
  intro directive member count overlong
  obtain ⟨before, first, after, length, split, firstOverlong, earlierShort⟩ :=
    exists_first_overlong member overlong
  obtain ⟨ended, noCalls, _⟩ :=
    @process_of_overlong σ context bench s before after first length split firstOverlong
      earlierShort
  obtain ⟨noted, made, _⟩ := onlyCalls _ ended
  rw [noCalls] at made
  cases made

/-! ## Which texts have such a quantity -/

/-- A text with a quantity that is too long is longer than the limit itself. -/
theorem short_of_length_le
    {chars : List Char} (length : chars.length ≤ Number.digitLimit) :
    ∀ directive ∈ Directive.scan chars, ∀ count, ¬ directive.Overlong count := by
  intro directive member count overlong
  obtain ⟨mark, start, stop, stands, rfl⟩ := Directive.mem_scan.1 member
  obtain ⟨before, word, after, rfl, spelled, _, _⟩ := stands.exists_append
  cases spelled with
  | @add sku quantity gap gap' skuField quantityField isGap isGap' =>
      obtain ⟨written, text, _, size⟩ := overlong.quantity
      have long := overlong.long
      cases Value.text.inj text
      have trimmed := Text.trim_length_le quantity
      rw [String.length_ofList] at size
      simp only [List.length_append] at length
      omega
  | remove skuField isGap => cases overlong.kind

/-- An addition of a proper article with more digits than are read is too long
wherever it stands. -/
theorem exists_overlong_of_spells
    {sku quantity word : List Char} (spelled : Mark.Spells (.add sku quantity) word)
    (isSku : IsSku (String.ofList (Text.trim sku)))
    (digits : isDigits (String.ofList (Text.trim quantity)) = true)
    (long : Number.digitLimit < (Text.trim quantity).length) (before after : List Char) :
    ∃ directive ∈ Directive.scan (before ++ word ++ after),
      directive.Overlong (Text.trim quantity).length := by
  have stands := Mark.standsAt_append spelled before after
  refine ⟨_, Directive.mem_scan.2 ⟨_, _, _, stands, rfl⟩, ?_⟩
  exact ⟨rfl, ⟨_, rfl, isSku⟩, ⟨_, rfl, digits, String.length_ofList⟩, long⟩

/-- A text that adds an article with a word of ones and removes another one. -/
def addOnes (count : Nat) : String :=
  String.ofList
    (Mark.word (.add ['A', '-', '1'] (List.replicate count '1')) ++
      Mark.word (.remove ['B', '-', '2']))

theorem exists_overlong_addOnes
    {count : Nat} (long : Number.digitLimit < count) :
    ∃ directive ∈ Directive.scan (addOnes count).toList, directive.Overlong count := by
  have ones : Text.trim (List.replicate count '1') = List.replicate count '1' :=
    Text.trim_eq_self (Text.isTrimmed_replicate rfl)
  have onesField : Mark.IsField (List.replicate count '1') := by
    intro c member
    rw [List.eq_of_mem_replicate member]
    rfl
  have onesDigits : isDigits (String.ofList (List.replicate count '1')) = true := by
    rw [isDigits_iff, String.toList_ofList]
    refine ⟨List.ne_nil_of_length_pos ?_, ?_⟩
    · rw [List.length_replicate]
      omega
    · intro c member
      rw [List.eq_of_mem_replicate member]
      rfl
  have skuField : Mark.IsField ['A', '-', '1'] := by simp [Mark.IsField, Mark.inField]
  have isSku : IsSku (String.ofList (Text.trim ['A', '-', '1'])) := by decide
  obtain ⟨directive, member, overlong⟩ :=
    exists_overlong_of_spells (Mark.spells_word_add skuField onesField) isSku
      (by rw [ones]; exact onesDigits) (by rw [ones, List.length_replicate]; exact long)
      [] (Mark.word (.remove ['B', '-', '2']))
  rw [ones, List.length_replicate] at overlong
  refine ⟨directive, ?_, overlong⟩
  rw [addOnes, String.toList_ofList]
  exact member

/-! ## Where faults come from -/

/-- Exactly the texts without a quantity that is too long have no faults but
those of calls, and then the calls follow the fates.  Otherwise the first
quantity that is too long is the fault, and no directive of the text is
executed. -/
theorem process_faults_iff_overlong
    (textIds : HasTextIds context.inventory) :
    (OnlyCallsFail context bench s ↔
      ∀ directive ∈ Directive.scan s.toList, ∀ count, ¬ directive.Overlong count) ∧
    (OnlyCallsFail context bench s → CallsFollowFates context bench s) ∧
    ∀ before directive after count,
      Directive.scan s.toList = before ++ directive :: after →
        directive.Overlong count →
        (∀ earlier ∈ before, ∀ count, ¬ earlier.Overlong count) →
        (process context bench (.text s)).1 = .error (.number (.tooManyDigits count)) ∧
          callsOf context bench (.text s) = [] ∧
          (process context bench (.text s)).2.state = bench.state := by
  refine ⟨⟨short_of_onlyCallsFail, onlyCallsFail_of_short textIds⟩, ?_, ?_⟩
  · intro onlyCalls
    exact callsFollowFates_of_short textIds (short_of_onlyCallsFail onlyCalls)
  · intro before directive after count split overlong short
    exact process_of_overlong split overlong short

def oneArticle : Value := .list [.dict [("id", .text "A-1")]]

theorem hasTextIds_oneArticle : HasTextIds oneArticle := by
  refine ⟨_, rfl, ?_⟩
  intro item member
  cases List.mem_singleton.1 member
  exact Or.inr (Or.inr ⟨"A-1", rfl⟩)

/-- A refused request does not keep the one behind it from its fate. -/
theorem onlyCallsFail_two_requests :
    HasTextIds oneArticle ∧
      @OnlyCallsFail Unit ⟨oneArticle, .idle, .null⟩ ⟨(), .nowhere, []⟩
        "[ACTION:ADD_TO_QUOTE,SKU:A-1,QUANTITY:0][ACTION:REMOVE_FROM_QUOTE,SKU:B-2]" :=
  ⟨hasTextIds_oneArticle,
    (process_faults_iff_overlong hasTextIds_oneArticle).1.2 (short_of_length_le (by decide))⟩

/-- Inventories with texts as ids are not enough for faults to come from calls
only. -/
theorem not_onlyCallsFail_of_hasTextIds :
    ¬ ∀ (context : TurnContext Unit) (bench : Bench Unit) (s : String),
      HasTextIds context.inventory → OnlyCallsFail context bench s := by
  intro onlyCalls
  obtain ⟨directive, member, overlong⟩ := @exists_overlong_addOnes 4301 (by decide)
  have short := short_of_onlyCallsFail
    (onlyCalls ⟨oneArticle, .idle, .null⟩ ⟨(), .nowhere, []⟩ (addOnes 4301)
      hasTextIds_oneArticle)
  exact short directive member 4301 overlong

end Reply

end QuoteDesk
