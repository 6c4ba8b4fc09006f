import QuoteDesk.Analysis.Schema
import QuoteDesk.Proofs.Json.Values
import QuoteDesk.Proofs.Number.Comparing

/-!
# What a schema admits

A schema is a list of rules about a value and about its parts.  A lawful validator reports a
breach exactly when a rule is broken, and it fails only where a breach cannot be told:
when a value is too long to be shown, or when a decimal that is no number would have to
be compared.  The validator of the program is lawful.
-/

namespace QuoteDesk

open Number Text

theorem Breach.line_ne_empty {breach : Breach} (worded : breach.message ≠ "") :
    breach.line ≠ "" := by
  unfold Breach.line
  split
  · exact worded
  · exact fun empty => worded (String.append_eq_empty_iff.mp empty).2

namespace Schema

/-! ## Rules -/

/-- A reading of the bounds of numbers: which values are at least, and which at most, a
whole number. -/
structure Reading where
  atLeast : Int → Value → Prop
  atMost : Int → Value → Prop

/-- Bounds hold of the rational number that a value is. -/
def Reading.real : Reading where
  atLeast bound value := ∃ r, value.real? = some r ∧ (bound : ℚ) ≤ r
  atMost bound value := ∃ r, value.real? = some r ∧ r ≤ (bound : ℚ)

/-- Bounds hold unless a comparison tells that they are passed. -/
def Reading.compared : Reading where
  atLeast bound value := value.less (.int bound) = .ok false
  atMost bound value := value.greater (.int bound) = .ok false

/-- A value keeps all rules of a schema, and so do its parts. -/
inductive Admits (reading : Reading) : Schema → Value → Prop
  | mk {types : List SchemaType} {names : List String} {properties : List (String × Schema)}
      {itemSchema : Option Schema} {minimum maximum : Option Int} {nonEmpty : Bool} {value : Value}
      (type : ∃ type ∈ types, type.admits value = true)
      (required : ∀ entries, value = .dict entries →
        ∀ name ∈ names, ∃ part, entries.lookup name = some part)
      (parts : ∀ entries, value = .dict entries →
        ∀ property ∈ properties, ∀ part, entries.lookup property.1 = some part →
          Admits reading property.2 part)
      (items : ∀ schema, itemSchema = some schema → ∀ values, value = .list values →
        ∀ item ∈ values, Admits reading schema item)
      (least : ∀ bound, minimum = some bound → SchemaType.number.admits value = true →
        reading.atLeast bound value)
      (greatest : ∀ bound, maximum = some bound → SchemaType.number.admits value = true →
        reading.atMost bound value)
      (filled : nonEmpty = true → value ≠ .text "") :
      Admits reading (.mk types names properties itemSchema minimum maximum nonEmpty) value

/-! ## What a check tells -/

-- The depth of a value is none of the reasons: the text in front of a breach is made for values
-- nested at any depth.
/-- Why a breach of a value cannot be told. -/
def Untold (value : Value) (fault : Fault) : Prop :=
  (∃ refused, fault = .number refused ∧ ¬ value.Writable) ∨
    fault = .arithmetic .invalidOperation ∧
      ∃ negative signalling payload,
        (Value.decimal (.nan negative signalling payload)).StandsIn value

/-- What is told of a rule: nothing when it is kept, a breach when it is broken, a fault
when it is broken and this cannot be told. -/
def Tells (kept : Prop) (value : Value) : Except Fault (Option Breach) → Prop
  | .ok none => kept
  | .ok (some breach) => ¬ kept ∧ breach.message ≠ ""
  | .error fault => ¬ kept ∧ Untold value fault

namespace Untold

variable {fault : Fault}

theorem of_mem_list
    {items : List Value} {item : Value} (untold : Untold item fault) (member : item ∈ items) :
    Untold (.list items) fault := by
  rcases untold with ⟨refused, told, unwritable⟩ | ⟨told, negative, signalling, payload, inside⟩
  · exact .inl ⟨refused, told, fun writable =>
      unwritable (Value.writable_list_iff.mp writable item member)⟩
  · exact .inr ⟨told, negative, signalling, payload, .item member inside⟩

theorem of_lookup
    {entries : Entries} {name : String} {part : Value} (untold : Untold part fault)
    (found : entries.lookup name = some part) : Untold (.dict entries) fault := by
  have member := Entries.mem_of_lookup found
  rcases untold with ⟨refused, told, unwritable⟩ | ⟨told, negative, signalling, payload, inside⟩
  · exact .inl ⟨refused, told, fun writable => unwritable (writable.lookup found)⟩
  · exact .inr ⟨told, negative, signalling, payload, .entry member inside⟩

/-- Every breach of a value of JSON can be told. -/
theorem not_isJson {value : Value} (untold : Untold value fault) : ¬ value.IsJson := by
  intro json
  rcases untold with ⟨_, _, unwritable⟩ | ⟨_, _, _, _, inside⟩
  · exact unwritable json.writable
  · exact Value.IsJson.not_decimal (json.of_standsIn inside)

end Untold

namespace Tells

variable {kept other : Prop} {value part : Value} {result first : Except Fault (Option Breach)}

theorem congr (told : Tells kept value result) (same : kept ↔ other) : Tells other value result := by
  rwa [propext same] at told

theorem iff (told : Tells kept value result) : result = .ok none ↔ kept := by
  rcases result with fault | _ | breach
  · exact iff_of_false nofun told.1
  · exact iff_of_true rfl told
  · exact iff_of_false nofun told.1

/-- A rule of a part is a rule of the whole. -/
theorem outside
    (told : Tells kept part result) (grows : ∀ fault, Untold part fault → Untold value fault) :
    Tells kept value result := by
  rcases result with fault | _ | breach
  · exact ⟨told.1, grows fault told.2⟩
  · exact told
  · exact told

/-- Of two rules the first one that is broken is told. -/
theorem and_then
    {next : Option Breach → Except Fault (Option Breach)}
    (told : Tells kept value first)
    (loud : ∀ breach, ∃ same, next (some breach) = .ok (some same) ∧ same.message = breach.message)
    (quiet : Tells other value (next none)) : Tells (kept ∧ other) value (first >>= next) := by
  rcases first with fault | _ | breach
  · exact ⟨fun both => told.1 both.1, told.2⟩
  · exact quiet.congr (and_iff_right told).symm
  · obtain ⟨same, reported, message⟩ := loud breach
    change Tells _ value (next (some breach))
    rw [reported]
    refine ⟨fun both => told.1 both.1, ?_⟩
    rw [message]
    exact told.2

end Tells

/-! ## The single rules -/

theorem append_ne_empty_of_left {first : String} (worded : first ≠ "") (more : String) :
    first ++ more ≠ "" :=
  fun empty => worded (String.append_eq_empty_iff.mp empty).1

section Rules

variable {value : Value}

theorem tells_breachOf
    {kept : Prop} (broken : ¬ kept) {wrong : String} (worded : wrong ≠ "") :
    Tells kept value (breachOf value wrong) := by
  unfold breachOf
  cases shown : value.shown with
  | error refused =>
      refine ⟨broken, .inl ⟨refused, rfl, ?_⟩⟩
      rintro ⟨s, writable⟩
      cases shown.symm.trans writable
  | ok s =>
      refine ⟨broken, ?_⟩
      exact fun empty => worded (String.append_eq_empty_iff.mp empty).2

theorem tells_typeBreach (types : List SchemaType) :
    Tells (∃ type ∈ types, type.admits value = true) value (typeBreach types value) := by
  unfold typeBreach
  by_cases admitted : (types.any fun type => type.admits value) = true
  · rw [if_pos admitted]
    exact List.any_eq_true.mp admitted
  · rw [if_neg admitted]
    exact tells_breachOf (fun typed => admitted (List.any_eq_true.mpr typed))
      (append_ne_empty_of_left (by decide) _)

theorem tells_requiredBreach (names : List String) (value : Value) :
    Tells (∀ entries, value = .dict entries → ∀ name ∈ names, ∃ part, entries.lookup name = some part)
      value (.ok (requiredBreach names value)) := by
  cases value with
  | dict entries =>
      rw [requiredBreach]
      cases found : names.find? fun name => (entries.lookup name).isNone with
      | none =>
          rintro _ ⟨⟩ name member
          refine Option.ne_none_iff_exists'.mp fun missing => ?_
          exact List.find?_eq_none.mp found name member (by rw [missing]; rfl)
      | some name =>
          have missing := List.find?_some found
          refine ⟨fun all => ?_, ?_⟩
          · obtain ⟨part, there⟩ := all entries rfl name (List.mem_of_find?_eq_some found)
            rw [there] at missing
            cases missing
          · exact fun empty => absurd (String.append_eq_empty_iff.mp empty).2 (by decide)
  | _ => rintro _ ⟨⟩

/-- A number is compared with a whole one unless it is a decimal that is no number. -/
theorem compare?_int_cases (number : SchemaType.number.admits value = true)
    (sign : String) (bound : Int) :
    (∃ order, value.compare? sign (.int bound) = .ok order) ∨
      (∃ negative signalling payload, value = .decimal (.nan negative signalling payload)) ∧
        value.compare? sign (.int bound) = .error (.arithmetic .invalidOperation) := by
  cases value with
  | int n => exact .inl ⟨_, rfl⟩
  | float x =>
      refine .inl ?_
      cases x with
      | infinite negative => exact ⟨_, rfl⟩
      | notANumber => exact ⟨_, rfl⟩
      | finite negative significand exponent fits =>
          obtain ⟨r, known⟩ :
              ∃ r, (Value.float (.finite negative significand exponent fits)).real? = some r :=
            ⟨_, rfl⟩
          obtain ⟨order, compared, _⟩ := Value.exists_order_of_real? known sign bound
          exact ⟨_, compared⟩
  | decimal d =>
      cases d with
      | infinite negative => exact .inl ⟨_, rfl⟩
      | finite negative coefficient exponent => exact .inl ⟨_, rfl⟩
      | nan negative signalling payload =>
          exact .inr ⟨⟨negative, signalling, payload, rfl⟩, rfl⟩
  | _ => cases number

/-- The least and the greatest number are checked alike. -/
theorem tells_bound
    {compared : Except Fault Bool} {sign wrong : String} {bound : Int} {found : Ordering}
    (number : SchemaType.number.admits value = true) (worded : wrong ≠ "")
    (comparedEq : compared = (value.compare? sign (.int bound)).map (· == some found)) :
    Tells (compared = .ok false) value (do
      if ← compared then breachOf value wrong else return none) := by
  rcases compare?_int_cases number sign bound with ⟨order, known⟩ | ⟨⟨_, _, _, rfl⟩, known⟩
  · have passed : compared = .ok (order == some found) := by
      rw [comparedEq, known]
      rfl
    rw [passed]
    cases order == some found with
    | true => exact tells_breachOf nofun worded
    | false => exact rfl
  · rw [comparedEq, known]
    exact ⟨nofun, .inr ⟨rfl, _, _, _, .self⟩⟩

theorem tells_minimumBreach (minimum : Option Int) :
    Tells (∀ bound, minimum = some bound → SchemaType.number.admits value = true →
      Reading.compared.atLeast bound value) value (minimumBreach minimum value) := by
  cases minimum with
  | none => exact nofun
  | some bound =>
      rw [minimumBreach]
      by_cases number : SchemaType.number.admits value = true
      · rw [if_pos number]
        have worded : s!" is less than the minimum of {bound}" ≠ "" :=
          append_ne_empty_of_left (by decide) _
        refine (tells_bound number worded rfl).congr ?_
        constructor
        · rintro kept _ ⟨⟩ _
          exact kept
        · exact fun kept => kept bound rfl number
      · rw [if_neg number]
        exact fun _ _ admitted => absurd admitted number

theorem tells_maximumBreach (maximum : Option Int) :
    Tells (∀ bound, maximum = some bound → SchemaType.number.admits value = true →
      Reading.compared.atMost bound value) value (maximumBreach maximum value) := by
  cases maximum with
  | none => exact nofun
  | some bound =>
      rw [maximumBreach]
      by_cases number : SchemaType.number.admits value = true
      · rw [if_pos number]
        have worded : s!" is greater than the maximum of {bound}" ≠ "" :=
          append_ne_empty_of_left (by decide) _
        refine (tells_bound number worded rfl).congr ?_
        constructor
        · rintro kept _ ⟨⟩ _
          exact kept
        · exact fun kept => kept bound rfl number
      · rw [if_neg number]
        exact fun _ _ admitted => absurd admitted number

theorem tells_lengthBreach (nonEmpty : Bool) :
    Tells (nonEmpty = true → value ≠ .text "") value (.ok (lengthBreach nonEmpty value)) := by
  unfold lengthBreach
  split
  · cases nonEmpty with
    | false => exact nofun
    | true => exact ⟨fun filled => filled rfl rfl, by decide⟩
  · rename_i other
    exact fun _ empty => other empty

theorem tells_itemBreach
    {check : Value → Except Fault (Option Breach)} {kept : Value → Prop}
    {values : List Value} (told : ∀ item ∈ values, Tells (kept item) item (check item))
    (index : Nat) {whole : List Value} (within : ∀ item ∈ values, item ∈ whole) :
    Tells (∀ item ∈ values, kept item) (.list whole) (itemBreach check index values) := by
  induction values generalizing index with
  | nil => exact List.forall_mem_nil _
  | cons item rest inductionHypothesis =>
      obtain ⟨first, more⟩ := List.forall_mem_cons.mp told
      obtain ⟨member, others⟩ := List.forall_mem_cons.mp within
      unfold itemBreach
      refine Tells.congr ?_ List.forall_mem_cons.symm
      exact (first.outside fun _ untold => untold.of_mem_list member).and_then
        (fun breach => ⟨_, rfl, rfl⟩) (inductionHypothesis more (index + 1) others)

end Rules

/-! ## Whole schemas -/

theorem admits_mk_iff
    {reading : Reading} {types : List SchemaType} {names : List String}
    {properties : List (String × Schema)} {itemSchema : Option Schema}
    {minimum maximum : Option Int} {nonEmpty : Bool} {value : Value} :
    (mk types names properties itemSchema minimum maximum nonEmpty).Admits reading value ↔
      (∃ type ∈ types, type.admits value = true) ∧
        (∀ entries, value = .dict entries →
          ∀ name ∈ names, ∃ part, entries.lookup name = some part) ∧
        (∀ entries, value = .dict entries →
          ∀ property ∈ properties, ∀ part, entries.lookup property.1 = some part →
            property.2.Admits reading part) ∧
        (∀ schema, itemSchema = some schema → ∀ values, value = .list values →
          ∀ item ∈ values, schema.Admits reading item) ∧
        (∀ bound, minimum = some bound → SchemaType.number.admits value = true →
          reading.atLeast bound value) ∧
        (∀ bound, maximum = some bound → SchemaType.number.admits value = true →
          reading.atMost bound value) ∧
        (nonEmpty = true → value ≠ .text "") := by
  constructor
  · rintro ⟨type, required, parts, items, least, greatest, filled⟩
    exact ⟨type, required, parts, items, least, greatest, filled⟩
  · rintro ⟨type, required, parts, items, least, greatest, filled⟩
    exact ⟨type, required, parts, items, least, greatest, filled⟩

mutual

/-- The check reports a breach exactly when a schema does not admit a value, with the
bounds read as comparisons tell them. -/
theorem tells_breach? (schema : Schema) (value : Value) :
    Tells (schema.Admits .compared value) value (schema.breach? value) := by
  cases schema with
  | mk types names properties itemSchema minimum maximum nonEmpty =>
      rw [breach?]
      have loud : ∀ breach : Breach, ∃ same,
          (Except.ok (some breach) : Except Fault _) = .ok (some same) ∧
            same.message = breach.message :=
        fun breach => ⟨breach, rfl, rfl⟩
      refine Tells.congr ?_ admits_mk_iff.symm
      refine (tells_typeBreach types).and_then loud ?_
      have required := tells_requiredBreach names value
      dsimp only
      cases missing : requiredBreach names value with
      | some breach =>
          rw [missing] at required
          exact ⟨fun kept => required.1 kept.1, required.2⟩
      | none =>
          rw [missing] at required
          refine Tells.congr ?_ (and_iff_right required).symm
          refine (tells_propertyBreach properties value).and_then loud ?_
          refine (tells_listBreach itemSchema value).and_then loud ?_
          refine (tells_minimumBreach minimum).and_then loud ?_
          refine (tells_maximumBreach maximum).and_then loud ?_
          exact tells_lengthBreach nonEmpty

theorem tells_propertyBreach (properties : List (String × Schema)) (value : Value) :
    Tells (∀ entries, value = .dict entries →
      ∀ property ∈ properties, ∀ part, entries.lookup property.1 = some part →
        property.2.Admits .compared part) value (propertyBreach properties value) := by
  cases properties with
  | nil => exact fun _ _ => List.forall_mem_nil _
  | cons property rest =>
      obtain ⟨name, schema⟩ := property
      unfold propertyBreach
      cases value with
      | dict entries =>
          have others := tells_propertyBreach rest (.dict entries)
          dsimp only
          cases found : entries.lookup name with
          | none =>
              refine others.congr ⟨?_, ?_⟩
              · rintro kept _ ⟨⟩
                refine List.forall_mem_cons.mpr ⟨?_, kept entries rfl⟩
                intro part there
                cases found.symm.trans there
              · rintro kept _ ⟨⟩
                exact (List.forall_mem_cons.mp (kept entries rfl)).2
          | some part =>
              have first := (tells_breach? schema part).outside fun _ untold =>
                untold.of_lookup found
              refine Tells.congr (first.and_then (fun breach => ⟨_, rfl, rfl⟩) others) ⟨?_, ?_⟩
              · rintro ⟨kept, restKept⟩ _ ⟨⟩
                refine List.forall_mem_cons.mpr ⟨?_, restKept entries rfl⟩
                intro same there
                cases found.symm.trans there
                exact kept
              · intro kept
                obtain ⟨firstKept, restKept⟩ := List.forall_mem_cons.mp (kept entries rfl)
                refine ⟨firstKept part found, ?_⟩
                rintro _ ⟨⟩
                exact restKept
      | _ => rintro _ ⟨⟩

theorem tells_listBreach (itemSchema : Option Schema) (value : Value) :
    Tells (∀ schema, itemSchema = some schema → ∀ values, value = .list values →
      ∀ item ∈ values, schema.Admits .compared item) value (listBreach itemSchema value) := by
  cases itemSchema with
  | none => exact nofun
  | some schema =>
      unfold listBreach
      cases value with
      | list values =>
          refine (tells_itemBreach (fun item _ => tells_breach? schema item) 0
            fun _ member => member).congr ?_
          constructor
          · rintro all _ ⟨⟩ _ ⟨⟩
            exact all
          · exact fun all => all schema rfl values rfl
      | _ => rintro _ _ _ ⟨⟩

end

end Schema

/-! ## Validators -/

/-- A validator that tells of every value whether a schema admits it, with the bounds read as
comparisons tell them. -/
structure Validator.Lawful (validator : Validator) : Prop where
  tells : ∀ schema value,
    Schema.Tells (schema.Admits .compared value) value (validator.breach? schema value)

/-- The validator of the program tells exactly the values that its schema does not admit. -/
theorem Validator.lawful_draft7 : Validator.draft7.Lawful :=
  ⟨Schema.tells_breach?⟩

end QuoteDesk
