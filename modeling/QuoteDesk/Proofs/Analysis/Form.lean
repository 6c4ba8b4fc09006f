import QuoteDesk.Proofs.Analysis.Admission
import QuoteDesk.Proofs.Number.Whole

/-!
# The shapes of schemas

Texts, numbers, lists and mappings each have a schema of their own, and what such a
schema admits is told by the shape of the value.  Bounds that hold of the numbers
themselves hold as they are compared; the converse fails only for a binary number that
is none, which no comparison tells to be outside.
-/

namespace QuoteDesk

open Number

namespace Schema

variable {reading : Reading} {value : Value}

/-! ## Shapes -/

/-- What is not stated asks for nothing. -/
theorem forall_of_none {α : Type} {asked : α → Prop} :
    ∀ stated, (none : Option α) = some stated → asked stated := by
  rintro _ ⟨⟩

theorem admits_ofText_iff {nonEmpty : Bool} :
    (ofText nonEmpty).Admits reading value ↔
      ∃ s, value = .text s ∧ (nonEmpty = true → s ≠ "") := by
  rw [ofText, admits_mk_iff]
  constructor
  · rintro ⟨⟨_, member, typed⟩, _, _, _, _, _, filled⟩
    cases List.mem_singleton.mp member
    cases value with
    | text s =>
        refine ⟨s, rfl, fun needed empty => filled needed ?_⟩
        rw [empty]
    | _ => cases typed
  · rintro ⟨s, rfl, filled⟩
    refine ⟨⟨_, List.mem_singleton_self _, rfl⟩, fun _ _ => List.forall_mem_nil _,
      fun _ _ => List.forall_mem_nil _, forall_of_none, forall_of_none, forall_of_none, ?_⟩
    rintro needed ⟨⟩
    exact filled needed rfl

theorem admits_ofTypes_iff {types : List SchemaType} :
    (ofTypes types).Admits reading value ↔ ∃ type ∈ types, type.admits value = true := by
  rw [ofTypes, admits_mk_iff]
  constructor
  · exact And.left
  · intro typed
    exact ⟨typed, fun _ _ => List.forall_mem_nil _, fun _ _ => List.forall_mem_nil _,
      forall_of_none, forall_of_none, forall_of_none, (absurd · Bool.false_ne_true)⟩

theorem admits_ofObject_iff {names : List String} {properties : List (String × Schema)} :
    (ofObject names properties).Admits reading value ↔
      ∃ entries, value = .dict entries ∧
        (∀ name ∈ names, ∃ part, entries.lookup name = some part) ∧
        ∀ property ∈ properties, ∀ part, entries.lookup property.1 = some part →
          property.2.Admits reading part := by
  rw [ofObject, admits_mk_iff]
  constructor
  · rintro ⟨⟨_, member, typed⟩, required, parts, _⟩
    cases List.mem_singleton.mp member
    cases value with
    | dict entries => exact ⟨entries, rfl, required entries rfl, parts entries rfl⟩
    | _ => cases typed
  · rintro ⟨entries, rfl, required, parts⟩
    refine ⟨⟨_, List.mem_singleton_self _, rfl⟩, ?_, ?_, forall_of_none, forall_of_none,
      forall_of_none, (absurd · Bool.false_ne_true)⟩
    · rintro _ ⟨⟩
      exact required
    · rintro _ ⟨⟩
      exact parts

theorem admits_ofItems_iff {schema : Schema} :
    (ofItems schema).Admits reading value ↔
      ∃ values, value = .list values ∧ ∀ item ∈ values, schema.Admits reading item := by
  rw [ofItems, admits_mk_iff]
  constructor
  · rintro ⟨⟨_, member, typed⟩, _, _, items, _⟩
    cases List.mem_singleton.mp member
    cases value with
    | list values => exact ⟨values, rfl, items schema rfl values rfl⟩
    | _ => cases typed
  · rintro ⟨values, rfl, items⟩
    refine ⟨⟨_, List.mem_singleton_self _, rfl⟩, fun _ _ => List.forall_mem_nil _,
      fun _ _ => List.forall_mem_nil _, ?_, forall_of_none, forall_of_none,
      (absurd · Bool.false_ne_true)⟩
    rintro _ ⟨⟩ _ ⟨⟩
    exact items

theorem admits_ofNumber_iff {type : SchemaType} {minimum maximum : Option Int} :
    (ofNumber type minimum maximum).Admits reading value ↔
      type.admits value = true ∧
        (∀ bound, minimum = some bound → SchemaType.number.admits value = true →
          reading.atLeast bound value) ∧
        ∀ bound, maximum = some bound → SchemaType.number.admits value = true →
          reading.atMost bound value := by
  rw [ofNumber, admits_mk_iff]
  constructor
  · rintro ⟨⟨_, member, typed⟩, _, _, _, least, greatest, _⟩
    cases List.mem_singleton.mp member
    exact ⟨typed, least, greatest⟩
  · rintro ⟨typed, least, greatest⟩
    exact ⟨⟨_, List.mem_singleton_self _, typed⟩, fun _ _ => List.forall_mem_nil _,
      fun _ _ => List.forall_mem_nil _, forall_of_none, least, greatest,
      (absurd · Bool.false_ne_true)⟩

/-! ## Bounds -/

section Bounds

variable {r : ℚ} {bound : Int}

theorem compared_atLeast_iff (known : value.real? = some r) :
    Reading.compared.atLeast bound value ↔ (bound : ℚ) ≤ r := by
  have compared : value.less (.int bound) = .ok (decide (r < bound)) :=
    Value.less_int_of_real? known bound
  rw [← not_lt, Reading.compared]
  simp [compared]

theorem compared_atMost_iff (known : value.real? = some r) :
    Reading.compared.atMost bound value ↔ r ≤ (bound : ℚ) := by
  have compared : value.greater (.int bound) = .ok (decide ((bound : ℚ) < r)) :=
    Value.greater_int_of_real? known bound
  rw [← not_lt, Reading.compared]
  simp [compared]

/-- Bounds that hold of the numbers are passed by no comparison. -/
theorem Admits.compared_of_real {schema : Schema} (admits : schema.Admits .real value) :
    schema.Admits .compared value := by
  induction admits with
  | mk type required _ _ least greatest filled parts items =>
      refine .mk type required parts items ?_ ?_ filled
      · intro bound set number
        obtain ⟨r, known, above⟩ := least bound set number
        exact (compared_atLeast_iff known).mpr above
      · intro bound set number
        obtain ⟨r, known, below⟩ := greatest bound set number
        exact (compared_atMost_iff known).mpr below

/-- The bounds of a share are passed by every number outside, but not by what is no
number. -/
theorem admits_share_iff :
    (ofNumber .number (some 0) (some 1)).Admits .compared value ↔
      (ofNumber .number (some 0) (some 1)).Admits .real value ∨ value = .float .notANumber := by
  constructor
  · intro admits
    obtain ⟨number, least, greatest⟩ := admits_ofNumber_iff.mp admits
    have low := least 0 rfl number
    have high := greatest 1 rfl number
    cases known : value.real? with
    | some r =>
        refine .inl (admits_ofNumber_iff.mpr ⟨number, ?_, ?_⟩)
        · rintro _ ⟨⟩ _
          exact ⟨r, known, (compared_atLeast_iff known).mp low⟩
        · rintro _ ⟨⟩ _
          exact ⟨r, known, (compared_atMost_iff known).mp high⟩
    | none =>
        cases value with
        | float x =>
            cases x with
            | finite negative significand exponent fits => cases known
            | notANumber => exact .inr rfl
            | infinite negative =>
                cases negative with
                | false => cases high
                | true => cases low
        | decimal d =>
            cases d with
            | finite negative coefficient exponent => cases known
            | nan negative signalling payload => cases low
            | infinite negative =>
                cases negative with
                | false => cases high
                | true => cases low
        | int n => cases known
        | _ => cases number
  · rintro (admits | rfl)
    · exact admits.compared_of_real
    · refine admits_ofNumber_iff.mpr ⟨rfl, ?_, ?_⟩
      · rintro _ ⟨⟩ _
        exact rfl
      · rintro _ ⟨⟩ _
        exact rfl

/-- A whole number is written as one or as a binary number without a fraction. -/
theorem exists_real?_of_integer (integer : SchemaType.integer.admits value = true) :
    ∃ n : Int, value.real? = some (n : ℚ) ∧
      (value = .int n ∨
        ∃ x, value = .float x ∧ x.truncate? = some n ∧ n.natAbs < 10 ^ digitLimit) := by
  cases value with
  | int n => exact ⟨n, rfl, .inl rfl⟩
  | float x =>
      obtain ⟨n, cut, known, short⟩ := Binary64.exists_int_of_isWhole integer
      exact ⟨n, known, .inr ⟨x, rfl, cut, short⟩⟩
  | _ => cases integer

theorem Admits.real_of_integer
    {minimum maximum : Option Int}
    (admits : (ofNumber .integer minimum maximum).Admits .compared value) :
    (ofNumber .integer minimum maximum).Admits .real value := by
  obtain ⟨integer, least, greatest⟩ := admits_ofNumber_iff.mp admits
  obtain ⟨n, known, _⟩ := exists_real?_of_integer integer
  refine admits_ofNumber_iff.mpr ⟨integer, ?_, ?_⟩
  · intro bound set number
    exact ⟨n, known, (compared_atLeast_iff known).mp (least bound set number)⟩
  · intro bound set number
    exact ⟨n, known, (compared_atMost_iff known).mp (greatest bound set number)⟩

end Bounds

end Schema

end QuoteDesk
