import Mathlib.Data.List.Forall2

/-!
# Results of work that may fail

Work made of parts ends well exactly when each of its parts does.
-/

namespace QuoteDesk

variable {ε α β : Type}

theorem exists_of_bind_eq_ok
    {work : Except ε α} {next : α → Except ε β} {result : β}
    (ended : (work >>= next) = .ok result) :
    ∃ value, work = .ok value ∧ next value = .ok result := by
  cases work with
  | error fault => cases ended
  | ok value => exact ⟨value, rfl, ended⟩

theorem eq_error_or_of_bind
    {work : Except ε α} {next : α → Except ε β} {fault : ε}
    (failed : (work >>= next) = .error fault) :
    work = .error fault ∨ ∃ value, work = .ok value ∧ next value = .error fault := by
  cases work with
  | error refused =>
      cases failed
      exact .inl rfl
  | ok value => exact .inr ⟨value, rfl, failed⟩

theorem exists_of_mapError_eq_error
    {δ : Type} {work : Except ε α} {name : ε → δ} {fault : δ}
    (failed : work.mapError name = .error fault) :
    ∃ refused, work = .error refused ∧ name refused = fault := by
  cases work with
  | error refused => exact ⟨refused, rfl, Except.error.inj failed⟩
  | ok value => cases failed

theorem exists_ok_of_bind
    {work : Except ε α} {next : α → Except ε β} (first : ∃ value, work = .ok value)
    (rest : ∀ value, work = .ok value → ∃ result, next value = .ok result) :
    ∃ result, (work >>= next) = .ok result := by
  obtain ⟨value, ended⟩ := first
  obtain ⟨result, same⟩ := rest value ended
  refine ⟨result, ?_⟩
  rw [ended]
  exact same

/-- A part whose result does not decide how the rest ends. -/
theorem exists_bind_iff
    {work : Except ε α} {next : α → Except ε β} {goesOn : Prop}
    (decided : ∀ value, work = .ok value → ((∃ result, next value = .ok result) ↔ goesOn)) :
    (∃ result, (work >>= next) = .ok result) ↔ (∃ value, work = .ok value) ∧ goesOn := by
  constructor
  · rintro ⟨result, ended⟩
    obtain ⟨value, first, rest⟩ := exists_of_bind_eq_ok ended
    exact ⟨⟨value, first⟩, (decided value first).mp ⟨result, rest⟩⟩
  · rintro ⟨first, goes⟩
    exact exists_ok_of_bind first fun value ended => (decided value ended).mpr goes

theorem exists_bind_pure_iff {work : Except ε α} {next : α → β} :
    (∃ result, (work >>= fun value => pure (next value)) = .ok result) ↔
      ∃ value, work = .ok value :=
  (exists_bind_iff fun _ _ => iff_of_true ⟨_, rfl⟩ trivial).trans (and_iff_left trivial)

theorem exists_mapError_iff {δ : Type} {work : Except ε α} {name : ε → δ} :
    (∃ value, work.mapError name = .ok value) ↔ ∃ value, work = .ok value := by
  cases work with
  | error fault =>
      refine iff_of_false ?_ ?_ <;> rintro ⟨value, ⟨⟩⟩
  | ok value => exact iff_of_true ⟨value, rfl⟩ ⟨value, rfl⟩

theorem forall₂_of_mapM
    {work : α → Except ε β} {items : List α} {results : List β}
    (made : items.mapM work = .ok results) :
    List.Forall₂ (fun item result => work item = .ok result) items results := by
  induction items generalizing results with
  | nil =>
      cases made
      exact .nil
  | cons item rest inductionHypothesis =>
      rw [List.mapM_cons] at made
      obtain ⟨first, firstMade, more⟩ := exists_of_bind_eq_ok made
      obtain ⟨others, restMade, told⟩ := exists_of_bind_eq_ok more
      cases told
      exact .cons firstMade (inductionHypothesis restMade)

theorem exists_mapM_iff {work : α → Except ε β} {items : List α} :
    (∃ results, items.mapM work = .ok results) ↔
      ∀ item ∈ items, ∃ result, work item = .ok result := by
  induction items with
  | nil => exact iff_of_true ⟨[], rfl⟩ (List.forall_mem_nil _)
  | cons item rest inductionHypothesis =>
      rw [List.mapM_cons, List.forall_mem_cons, ← inductionHypothesis]
      exact exists_bind_iff fun first _ => exists_bind_pure_iff

theorem mapM_eq_self
    {work : α → Except ε α} {items : List α} (fixed : ∀ item ∈ items, work item = .ok item) :
    items.mapM work = .ok items := by
  induction items with
  | nil => rfl
  | cons item rest inductionHypothesis =>
      obtain ⟨first, others⟩ := List.forall_mem_cons.mp fixed
      rw [List.mapM_cons, first, inductionHypothesis others]
      rfl

theorem exists_of_mem_mapM
    {work : α → Except ε β} {items : List α} {results : List β} {result : β}
    (made : items.mapM work = .ok results) (member : result ∈ results) :
    ∃ item ∈ items, work item = .ok result := by
  obtain ⟨place, within, rfl⟩ := List.mem_iff_getElem.mp member
  have pairs := forall₂_of_mapM made
  have same : items.length = results.length := pairs.length_eq
  exact ⟨items[place], List.getElem_mem _, pairs.get (same ▸ within) within⟩

end QuoteDesk
