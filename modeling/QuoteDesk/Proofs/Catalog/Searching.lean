import QuoteDesk.Directive.Reply
import QuoteDesk.Proofs.Catalog.Lookup
import QuoteDesk.Proofs.Value.Writable

/-!
# Catalogs and searches

What a catalog finds is what a search through the items finds: the first one with the id.
But a catalog needs the ids of all items as texts, while a search stops at the first item
that it looks for.  An id that cannot be written, anywhere in an inventory, leaves it
without a catalog.
-/

namespace QuoteDesk

open Number

/-! ## Ids as texts -/

namespace Value

variable {item : Value}

/-- The values that can be written are those that have a display. -/
theorem writable_iff_exists_display {value : Value} :
    value.Writable ↔ ∃ s, value.display = .ok s := by
  refine ⟨Writable.exists_display, ?_⟩
  unfold Value.display
  split
  · exact fun _ => ⟨_, rfl⟩
  · exact fun _ => ⟨_, rfl⟩
  · exact id

-- An id may be nested at any depth: the texts of values know no limit on open calls.
/-- The id of an item, if it has one, can be written. -/
def Legible (item : Value) : Prop :=
  ∀ id, item.field? "id" = some id → id.Writable

/-- The id of an item is there and, as text, this one. -/
def Carries (item : Value) (sku : String) : Prop :=
  ∃ id, item.field? "id" = some id ∧ id ≠ .null ∧ id.display = .ok sku

theorem itemId_of_given {id : Value} (given : item.field? "id" = some id) (real : id ≠ .null) :
    itemId item = id.display.map some := by
  rw [itemId, given]
  split
  · rename_i absent
    cases absent
  · rename_i null
    exact absurd (Option.some.inj null) real
  · rename_i same
    rw [Option.some.inj same]

theorem exists_itemId_iff : (∃ sku?, itemId item = .ok sku?) ↔ item.Legible := by
  unfold Legible
  cases given : item.field? "id" with
  | none => exact iff_of_true ⟨none, by rw [itemId, given]⟩ (by rintro _ ⟨⟩)
  | some id =>
      by_cases null : id = .null
      · subst null
        refine iff_of_true ⟨none, by rw [itemId, given]⟩ ?_
        rintro _ ⟨⟩
        exact ⟨_, rfl⟩
      · simp only [itemId_of_given given null, Option.some.injEq, forall_eq',
          writable_iff_exists_display]
        cases id.display with
        | error fault => exact iff_of_false (by rintro ⟨_, ⟨⟩⟩) (by rintro ⟨_, ⟨⟩⟩)
        | ok s => exact iff_of_true ⟨some s, rfl⟩ ⟨s, rfl⟩

theorem itemId_eq_ok_some_iff {sku : String} :
    itemId item = .ok (some sku) ↔ item.Carries sku := by
  constructor
  · intro known
    cases given : item.field? "id" with
    | none =>
        rw [itemId, given] at known
        cases known
    | some id =>
        by_cases null : id = .null
        · rw [itemId, given, null] at known
          cases known
        · rw [itemId_of_given given null] at known
          refine ⟨id, given, null, ?_⟩
          cases shown : id.display with
          | error fault =>
              rw [shown] at known
              cases known
          | ok s =>
              rw [shown] at known
              cases known
              rfl
  · rintro ⟨id, given, real, shown⟩
    rw [itemId_of_given given real, shown]
    rfl

theorem hasId_iff {sku : String} : item.hasId sku = true ↔ item.Carries sku := by
  rw [← itemId_eq_ok_some_iff, hasId, beq_iff_eq]
  cases itemId item with
  | error fault => exact iff_of_false (by rintro ⟨⟩) (by rintro ⟨⟩)
  | ok sku? => rw [Except.toOption, Option.some.injEq, Except.ok.injEq]

end Value

/-! ## The first item -/

namespace Catalog

variable {items : List Value} {sku : String}

/-- Of some items, the first with an id is this one, or none has it. -/
inductive Finds (items : List Value) (sku : String) : Option Value → Prop
  | first {earlier later : List Value} {item : Value} (split : items = earlier ++ item :: later)
      (carries : item.Carries sku) (fresh : ∀ other ∈ earlier, ¬ other.Carries sku) :
      Finds items sku (some item)
  | nothing (fresh : ∀ item ∈ items, ¬ item.Carries sku) : Finds items sku none

theorem finds_firstWithId (items : List Value) (sku : String) :
    Finds items sku (firstWithId items sku) := by
  cases found : firstWithId items sku with
  | none =>
      refine .nothing fun item member carries => ?_
      exact List.find?_eq_none.mp found item member (Value.hasId_iff.mpr carries)
  | some item =>
      obtain ⟨hit, earlier, later, split, missed⟩ := List.find?_eq_some_iff_append.mp found
      refine .first split (Value.hasId_iff.mp hit) fun other member carries => ?_
      have miss : other.hasId sku = false := by simpa using missed other member
      rw [Value.hasId_iff.mpr carries] at miss
      cases miss

/-- There is one thing to find. -/
theorem finds_iff {found : Option Value} :
    Finds items sku found ↔ found = firstWithId items sku := by
  refine ⟨fun finds => ?_, fun same => same ▸ finds_firstWithId items sku⟩
  cases finds with
  | nothing fresh =>
      refine (List.find?_eq_none.mpr fun item member hit => ?_).symm
      exact fresh item member (Value.hasId_iff.mp hit)
  | @first earlier later item split carries fresh =>
      have missed : ∀ other ∈ earlier, (!other.hasId sku) = true := by
        intro other member
        simpa using mt Value.hasId_iff.mp (fresh other member)
      rw [firstWithId, eq_comm, List.find?_eq_some_iff_append]
      exact ⟨Value.hasId_iff.mpr carries, earlier, later, split, missed⟩

/-! ## Searching -/

/-- Goes through the items one by one, up to the first with an id. -/
def search : List Value → String → Except IntegerFault (Option Value)
  | [], _ => .ok none
  | item :: rest, sku =>
    match itemId item with
    | .error fault => .error fault
    | .ok sku? => if sku? = some sku then .ok (some item) else search rest sku

theorem search_cons_of_error
    {item : Value} {fault : IntegerFault} (illegible : itemId item = .error fault)
    (rest : List Value) : search (item :: rest) sku = .error fault := by
  rw [search, illegible]

theorem search_cons_of_ok
    {item : Value} {sku? : Option String} (known : itemId item = .ok sku?) (rest : List Value) :
    search (item :: rest) sku =
      if item.hasId sku then .ok (some item) else search rest sku := by
  rw [search, known]
  simp only [Value.hasId, known, Except.toOption, beq_iff_eq, Option.some.injEq]

theorem eq_firstWithId_of_search
    {found : Option Value} (ended : search items sku = .ok found) :
    found = firstWithId items sku := by
  induction items with
  | nil =>
      cases ended
      rfl
  | cons item rest inductionHypothesis =>
      cases known : itemId item with
      | error fault =>
          rw [search_cons_of_error known] at ended
          cases ended
      | ok sku? =>
          rw [search_cons_of_ok known] at ended
          rw [firstWithId_cons]
          split at ended
          · rename_i hit
            cases ended
            rw [if_pos hit]
          · rename_i miss
            rw [if_neg miss]
            exact inductionHypothesis ended

/-- A search through items with legible ids finds the first one with the id. -/
theorem search_of_legible (legible : ∀ item ∈ items, item.Legible) :
    search items sku = .ok (firstWithId items sku) := by
  induction items with
  | nil => rfl
  | cons item rest inductionHypothesis =>
      obtain ⟨first, others⟩ := List.forall_mem_cons.mp legible
      obtain ⟨sku?, known⟩ := Value.exists_itemId_iff.mpr first
      rw [search_cons_of_ok known, firstWithId_cons, inductionHypothesis others]
      split <;> rfl

/-- Where there is no catalog, a search breaks down at the same item, unless it ends with an
item before. -/
theorem search_of_foldlM_eq_error
    {initial : Catalog} {fault : IntegerFault} (failed : items.foldlM step initial = .error fault)
    (sku : String) :
    search items sku = .error fault ∨ ∃ item, search items sku = .ok (some item) := by
  induction items generalizing initial with
  | nil => cases failed
  | cons item rest inductionHypothesis =>
      cases known : itemId item with
      | error refused =>
          rw [foldlM_cons_of_error known] at failed
          cases failed
          exact Or.inl (search_cons_of_error known rest)
      | ok sku? =>
          rw [search_cons_of_ok known]
          split
          · exact Or.inr ⟨item, rfl⟩
          · rw [List.foldlM_cons, step, known] at failed
            cases sku? with
            | none => exact inductionHypothesis failed
            | some own => exact inductionHypothesis failed

/-- What the catalog of some items finds under an id. -/
def lookUp (items : List Value) (sku : String) : Except Fault (Option Value) :=
  (Reply.catalogOf (.list items)).map (·.find? sku)

theorem lookUp_of_legible (legible : ∀ item ∈ items, item.Legible) (sku : String) :
    lookUp items sku = .ok (firstWithId items sku) := by
  obtain ⟨catalog, built⟩ :=
    ofItems_isOk fun item member => Value.exists_itemId_iff.mpr (legible item member)
  have indexed : Reply.catalogOf (.list items) = .ok catalog :=
    congrArg (Except.mapError Fault.number) built
  rw [lookUp, indexed, Except.map, find?_ofItems built]

/-- One id that is not legible makes every lookup fail. -/
theorem exists_lookUp_eq_error
    (illegible : ¬ ∀ item ∈ items, item.Legible) :
    ∃ fault, ofItems items = .error fault ∧ ∀ sku, lookUp items sku = .error (.number fault) := by
  cases built : ofItems items with
  | ok catalog =>
      rw [ofItems_eq_foldlM] at built
      refine absurd (fun item member => ?_) illegible
      exact Value.exists_itemId_iff.mp ((exists_foldlM_iff []).mp ⟨catalog, built⟩ item member)
  | error fault =>
      refine ⟨fault, rfl, fun sku => ?_⟩
      have unindexed : Reply.catalogOf (.list items) = .error (.number fault) :=
        congrArg (Except.mapError Fault.number) built
      rw [lookUp, unindexed]
      rfl

/-- If the ids of all items can be written, a look-up finds what a search finds, the first
item with the id.  Otherwise every look-up fails, and so agrees with a search exactly when
this ends without an item. -/
theorem lookUp_eq_search_iff (items : List Value) :
    ((∀ sku found, lookUp items sku = .ok found ↔ Finds items sku found) ↔
        ∀ item ∈ items, item.Legible) ∧
      ((¬ ∀ item ∈ items, item.Legible) →
        ∃ fault, ∀ sku, lookUp items sku = .error (.number fault)) ∧
      ∀ sku,
        (∀ found, search items sku = .ok found → Finds items sku found) ∧
        (lookUp items sku = (search items sku).mapError .number ↔
          (∀ item ∈ items, item.Legible) ∨ ¬ ∃ item, search items sku = .ok (some item)) := by
  refine ⟨⟨fun found => ?_, fun legible sku found => ?_⟩, fun illegible => ?_,
    fun sku => ⟨fun found ended => ?_, ?_⟩⟩
  · refine Classical.byContradiction fun illegible => ?_
    obtain ⟨fault, -, failed⟩ := exists_lookUp_eq_error illegible
    have ended := (found "" _).mpr (finds_firstWithId items "")
    cases ended.symm.trans (failed "")
  · rw [lookUp_of_legible legible, finds_iff, Except.ok.injEq, eq_comm]
  · obtain ⟨fault, -, failed⟩ := exists_lookUp_eq_error illegible
    exact ⟨fault, failed⟩
  · exact finds_iff.mpr (eq_firstWithId_of_search ended)
  · by_cases legible : ∀ item ∈ items, item.Legible
    · refine iff_of_true ?_ (Or.inl legible)
      rw [lookUp_of_legible legible, search_of_legible legible]
      rfl
    · obtain ⟨fault, built, failed⟩ := exists_lookUp_eq_error legible
      rw [ofItems_eq_foldlM] at built
      rw [or_iff_right legible, failed]
      rcases search_of_foldlM_eq_error built sku with same | ⟨item, ended⟩
      · rw [same]
        exact iff_of_true rfl (by rintro ⟨_, ⟨⟩⟩)
      · rw [ended]
        exact iff_of_false (by rintro ⟨⟩) (not_not_intro ⟨item, rfl⟩)

/-- An item without an id, a number as an id, and the same id as a text. -/
def collision : List Value :=
  [.dict [("name", .text "Door")], .record [("id", .int 7)], .dict [("id", .text "7")]]

theorem lookUp_eq_search_collision :
    (∀ item ∈ collision, item.Legible) ∧
      lookUp collision "7" = .ok (some (.record [("id", .int 7)])) ∧
      lookUp collision "A-1" = .ok none := by
  have legible : ∀ item ∈ collision, item.Legible := by
    simp only [collision, List.forall_mem_cons]
    refine ⟨by rintro _ ⟨⟩, ?_, ?_, by rintro _ ⟨⟩⟩
    · rintro _ ⟨⟩
      exact ⟨"7", rfl⟩
    · rintro _ ⟨⟩
      exact ⟨_, rfl⟩
  have found := (lookUp_eq_search_iff collision).1.mpr legible
  exact ⟨legible, (found "7" _).mpr (finds_iff.mpr rfl), (found "A-1" _).mpr (finds_iff.mpr rfl)⟩

/-- An item whose id is a text, and behind it one whose id is a number. -/
def besideNumbered (id : Nat) : List Value :=
  [.dict [("id", .text "A-1")], .dict [("id", .int id)]]

theorem finds_besideNumbered (id : Nat) :
    Finds (besideNumbered id) "A-1" (some (.dict [("id", .text "A-1")])) :=
  .first (List.nil_append _).symm ⟨.text "A-1", rfl, by rintro ⟨⟩, rfl⟩ (by rintro _ ⟨⟩)

theorem not_legible_besideNumbered {id : Nat} (large : 10 ^ digitLimit ≤ id) :
    ¬ ∀ item ∈ besideNumbered id, item.Legible := by
  intro legible
  have writable := legible _ (List.mem_cons_of_mem _ List.mem_cons_self) (.int id) rfl
  exact Nat.not_lt.mpr large (Value.writable_int_iff.mp writable)

/-- The item that is looked for stands in front of an id with a digit too many. -/
theorem not_every_lookUp_finds_first :
    ¬ ∀ items sku found, Finds items sku found → lookUp items sku = .ok found := by
  intro finds
  have found := finds _ _ _ (finds_besideNumbered (10 ^ digitLimit))
  obtain ⟨fault, -, failed⟩ :=
    exists_lookUp_eq_error (not_legible_besideNumbered (Nat.le_refl (10 ^ digitLimit)))
  cases found.symm.trans (failed "A-1")

end Catalog

end QuoteDesk
