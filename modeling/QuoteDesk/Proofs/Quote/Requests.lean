import Mathlib.Data.List.DropRight
import QuoteDesk.Quote.Access

/-!
# Requests to a quote

Articles are added to a quote, removed from it, and all of them are cleared at once.
An addition may fail.  The log of a quote holds the requests that did not; from it
alone one can tell what was added of an article since its line was last ended, and at
which place of the log the line was opened.
-/

namespace QuoteDesk

open Number

/-- What is asked of a quote. -/
inductive QuoteRequest where
  | add (item : Value) (quantity : Int)
  | remove (sku : String)
  | clear

/-- How a request ends. -/
inductive QuoteAnswer where
  | added
  | removed (found : Bool)
  | cleared
  | failed (fault : Fault)

namespace QuoteAnswer

def ofFailure : Option Fault → QuoteAnswer
  | none => .added
  | some fault => .failed fault

/-- The request did not fail. -/
def succeeds : QuoteAnswer → Bool
  | .failed _ => false
  | _ => true

end QuoteAnswer

namespace Quote

/-- What a request does. -/
def answer (quote : Quote) : QuoteRequest → QuoteAnswer × Quote
  | .add item quantity =>
      let change := access.add quote item (.number quantity)
      (.ofFailure change.failure, change.state)
  | .remove sku => (.removed (quote.contains sku), (access.remove quote sku).state)
  | .clear => (.cleared, .empty)

def after (quote : Quote) (requests : List QuoteRequest) : Quote :=
  requests.foldl (fun quote request => (quote.answer request).2) quote

/-- The requests that succeed when they are made one after the other. -/
def granted (quote : Quote) : List QuoteRequest → List QuoteRequest
  | [] => []
  | request :: later =>
      if (quote.answer request).1.succeeds then
        request :: granted (quote.answer request).2 later
      else granted (quote.answer request).2 later

/-! ## What an addition does -/

section Additions

variable {quote : Quote} {item : Value} {quantity : Int} {sku : String}

/-- An addition that does not fail adds at least one unit of an article.  It raises the
quantity of the article's line, and where there is none it opens one behind the others. -/
theorem exists_of_add_eq_ok
    {next : Quote} {line : QuoteLine} {log : List LogRecord}
    (added : quote.add item quantity = .ok (next, line, log)) :
    ∃ sku, itemId item = .ok (some sku) ∧ 1 ≤ quantity ∧
      ((∃ found, quote.line? sku = some found ∧ next = quote.raise sku quantity) ∨
        (quote.line? sku = none ∧ openLine item sku quantity = .ok line ∧
          next = ⟨quote.lines ++ [line]⟩)) := by
  cases named : itemId item with
  | error fault =>
      simp only [add, named, Except.mapError, bind, Except.bind] at added
      cases added
  | ok sku? =>
      cases sku? with
      | none =>
          simp only [add, named, Except.mapError, bind, Except.bind] at added
          cases added
      | some sku =>
          refine ⟨sku, rfl, ?_⟩
          simp only [add, named, Except.mapError, bind, Except.bind] at added
          by_cases small : quantity < 1
          · rw [if_pos small] at added
            cases written : writeInteger quantity with
            | error fault =>
                rw [written] at added
                cases added
            | ok shown =>
                rw [written] at added
                cases added
          · rw [if_neg small] at added
            refine ⟨Int.not_lt.mp small, ?_⟩
            simp only [pure, Except.pure] at added
            cases there : quote.line? sku with
            | some found =>
                rw [there] at added
                cases added
                exact .inl ⟨found, rfl, rfl⟩
            | none =>
                rw [there] at added
                cases made : openLine item sku quantity with
                | error fault =>
                    rw [made] at added
                    cases added
                | ok opened =>
                    rw [made] at added
                    cases added
                    exact .inr ⟨rfl, rfl, rfl⟩

theorem answer_add (quote : Quote) (item : Value) (quantity : Int) :
    quote.answer (.add item quantity) =
      match quote.add item quantity with
      | .ok (next, _, _) => (.added, next)
      | .error fault => (.failed fault, quote) := by
  simp only [answer, access, addAmount]
  cases quote.add item quantity <;> rfl

/-- A request that fails leaves the quote as it was. -/
theorem answer_of_failed
    {request : QuoteRequest} {fault : Fault}
    (failed : (quote.answer request).1 = .failed fault) : (quote.answer request).2 = quote := by
  cases request with
  | remove sku => cases failed
  | clear => cases failed
  | add item quantity =>
      rw [answer_add] at failed ⊢
      cases added : quote.add item quantity with
      | error fault => rfl
      | ok result =>
          rw [added] at failed
          cases failed

/-- A request that fails leaves the quote as it was. -/
theorem answer_of_not_succeeds
    {request : QuoteRequest} (refused : (quote.answer request).1.succeeds = false) :
    (quote.answer request).2 = quote := by
  cases ended : (quote.answer request).1 with
  | failed fault => exact answer_of_failed ended
  | added | removed | cleared =>
      rw [ended] at refused
      cases refused

end Additions

end Quote

/-! ## Logs -/

namespace QuoteRequest

/-- The request ends the line of an article. -/
def ends (sku : String) : QuoteRequest → Bool
  | .add _ _ => false
  | .remove other => other = sku
  | .clear => true

/-- The item and the units that a request adds of an article. -/
def addition? (sku : String) : QuoteRequest → Option (Value × Int)
  | .add item quantity =>
      if (itemId item).toOption = some (some sku) then some (item, quantity) else none
  | .remove _ => none
  | .clear => none

theorem addition?_of_itemId
    {item : Value} {sku : String} (named : itemId item = .ok (some sku)) (quantity : Int) :
    (add item quantity).addition? sku = some (item, quantity) := by
  rw [addition?, named]
  exact if_pos rfl

theorem addition?_of_ne
    {item : Value} {sku other : String} (named : itemId item = .ok (some sku))
    (different : other ≠ sku) (quantity : Int) : (add item quantity).addition? other = none := by
  rw [addition?, named, if_neg]
  intro same
  exact different (Option.some.inj (Option.some.inj same)).symm

end QuoteRequest

namespace QuoteLog

variable (log : List QuoteRequest) (sku : String)

/-- The requests since an article's line was last ended. -/
def sinceEnded : List QuoteRequest :=
  log.rtakeWhile fun request => !request.ends sku

/-- What was added of an article since its line was last ended, in order. -/
def additions : List (Value × Int) :=
  (sinceEnded log sku).filterMap (QuoteRequest.addition? sku)

/-- The place in the log of the first addition since the article's line was last ended. -/
def openedAt : Nat :=
  (log.rdropWhile fun request => !request.ends sku).length +
    (sinceEnded log sku).findIdx fun request => (request.addition? sku).isSome

/-! ### One more request -/

variable {log sku} {request : QuoteRequest}

theorem sinceEnded_of_ends (ended : request.ends sku = true) :
    sinceEnded (log ++ [request]) sku = [] := by
  rw [sinceEnded, List.rtakeWhile_concat_neg]
  rw [ended]
  exact Bool.false_ne_true

theorem sinceEnded_of_not_ends (goesOn : request.ends sku = false) :
    sinceEnded (log ++ [request]) sku = sinceEnded log sku ++ [request] := by
  rw [sinceEnded, List.rtakeWhile_concat_pos]
  · rfl
  · rw [goesOn]
    rfl

theorem additions_of_ends (ended : request.ends sku = true) :
    additions (log ++ [request]) sku = [] := by
  rw [additions, sinceEnded_of_ends ended, List.filterMap_nil]

theorem additions_of_not_ends (goesOn : request.ends sku = false) :
    additions (log ++ [request]) sku =
      additions log sku ++ (request.addition? sku).toList := by
  rw [additions, sinceEnded_of_not_ends goesOn, List.filterMap_append]
  rfl

theorem openedAt_lt_length (added : additions log sku ≠ []) : openedAt log sku < log.length := by
  have there : (sinceEnded log sku).findIdx (fun request => (request.addition? sku).isSome) <
      (sinceEnded log sku).length := by
    obtain ⟨addition, member⟩ := List.exists_mem_of_ne_nil _ added
    obtain ⟨request, since, adds⟩ := List.mem_filterMap.mp member
    exact List.findIdx_lt_length_of_exists ⟨request, since, Option.isSome_of_eq_some adds⟩
  have whole := congrArg List.length
    (List.rdropWhile_append_rtakeWhile (l := log) (p := fun request => !request.ends sku))
  rw [List.length_append] at whole
  rw [sinceEnded] at there
  rw [openedAt, sinceEnded]
  omega

/-- A line that is there stays where it was opened until it is ended. -/
theorem openedAt_of_added
    (added : additions log sku ≠ []) (goesOn : request.ends sku = false) :
    openedAt (log ++ [request]) sku = openedAt log sku := by
  have there : ∃ request ∈ sinceEnded log sku, (request.addition? sku).isSome = true := by
    obtain ⟨addition, member⟩ := List.exists_mem_of_ne_nil _ added
    obtain ⟨request, since, adds⟩ := List.mem_filterMap.mp member
    exact ⟨request, since, Option.isSome_of_eq_some adds⟩
  rw [openedAt, openedAt, sinceEnded_of_not_ends goesOn, List.rdropWhile_concat_pos,
    List.findIdx_append, if_pos (List.findIdx_lt_length_of_exists there)]
  rw [goesOn]
  rfl

/-- The first addition opens the line at the end of the log. -/
theorem openedAt_of_first
    {addition : Value × Int} (absent : additions log sku = [])
    (adds : request.addition? sku = some addition) :
    openedAt (log ++ [request]) sku = log.length := by
  have goesOn : request.ends sku = false := by
    cases request with
    | add item quantity => rfl
    | remove other => cases adds
    | clear => cases adds
  have nowhere : ¬ (sinceEnded log sku).findIdx (fun request => (request.addition? sku).isSome) <
      (sinceEnded log sku).length := by
    rw [List.findIdx_lt_length]
    rintro ⟨earlier, since, found⟩
    obtain ⟨other, other_eq⟩ := Option.isSome_iff_exists.mp found
    have member : other ∈ additions log sku := List.mem_filterMap.mpr ⟨earlier, since, other_eq⟩
    rw [absent] at member
    cases member
  have whole := congrArg List.length
    (List.rdropWhile_append_rtakeWhile (l := log) (p := fun request => !request.ends sku))
  rw [List.length_append] at whole
  rw [openedAt, sinceEnded_of_not_ends goesOn, List.rdropWhile_concat_pos, List.findIdx_append,
    if_neg nowhere, List.findIdx_singleton, if_pos (Option.isSome_of_eq_some adds)]
  · rw [sinceEnded]
    omega
  · rw [goesOn]
    rfl

end QuoteLog

end QuoteDesk
