import Mathlib.Algebra.Ring.Int.Defs
import Mathlib.Data.List.Nodup
import Mathlib.Data.List.Perm.Basic
import QuoteDesk.Proofs.Directive.Plain
import QuoteDesk.Proofs.Quote.Requests

/-!
# A quote is the replay of its log

The lines of a quote are told by the requests that succeeded: there is a line for each
article that was added since it was last removed or all was cleared, in the order of
these first additions, with all units added since then.  Failed requests leave no trace.
-/

namespace QuoteDesk

open Number

namespace QuoteLine

/-- A line sums up what was added of its article: the first item gives the name, the
price and the stock, and all units count. -/
structure SumsUp (line : QuoteLine) (additions : List (Value × Int)) : Prop where
  first : ∃ item, (additions.map Prod.fst).head? = some item ∧
    Quote.statedName item line.sku = .ok line.name ∧
    line.unitPrice = toDecimal (item.field "price" .null) ∧
    Quote.statedStock (item.field "stock" .null) = .ok line.stock
  quantity : line.quantity = (additions.map Prod.snd).sum
  positive : 1 ≤ line.quantity

namespace SumsUp

variable {line : QuoteLine} {additions : List (Value × Int)} {item : Value} {quantity : Int}

theorem unique
    {other : QuoteLine} (sums : line.SumsUp additions) (others : other.SumsUp additions)
    (sameSku : line.sku = other.sku) : line = other := by
  obtain ⟨item, head, name, price, stock⟩ := sums.first
  obtain ⟨again, otherHead, otherName, otherPrice, otherStock⟩ := others.first
  cases head.symm.trans otherHead
  rw [← sameSku] at otherName
  have sameName := Except.ok.inj (name.symm.trans otherName)
  have sameStock := Except.ok.inj (stock.symm.trans otherStock)
  have samePrice := price.trans otherPrice.symm
  have sameQuantity := sums.quantity.trans others.quantity.symm
  cases line
  cases other
  cases sameSku
  cases sameName
  cases sameStock
  cases samePrice
  cases sameQuantity
  rfl

/-- Units that are added later raise the quantity and change nothing else. -/
theorem raised (sums : line.SumsUp additions) (units : 1 ≤ quantity) :
    { line with quantity := line.quantity + quantity }.SumsUp (additions ++ [(item, quantity)]) where
  first := by
    obtain ⟨first, head, rest⟩ := sums.first
    refine ⟨first, ?_, rest⟩
    rw [List.map_append, List.head?_append, head]
    rfl
  quantity := by
    rw [List.map_append, List.sum_append, ← sums.quantity, List.map_singleton, List.sum_singleton]
  positive := by
    have before := sums.positive
    dsimp only
    omega

theorem opened
    {sku : String} (made : Quote.openLine item sku quantity = .ok line) (units : 1 ≤ quantity) :
    line.SumsUp [(item, quantity)] ∧ line.sku = sku := by
  obtain ⟨name, named, rest⟩ := exists_of_bind_eq_ok made
  obtain ⟨stock, stocked, told⟩ := exists_of_bind_eq_ok rest
  cases told
  refine ⟨⟨⟨item, rfl, ?_, rfl, stocked⟩, (List.sum_singleton).symm, units⟩, rfl⟩
  dsimp only
  cases stated : Quote.statedName item sku with
  | error fault =>
      rw [stated] at named
      cases named
  | ok s =>
      rw [stated] at named
      cases named
      rfl

end SumsUp

end QuoteLine

namespace Quote

open QuoteLog (additions openedAt)

/-- A quote is what its log tells. -/
structure Replays (log : List QuoteRequest) (quote : Quote) : Prop where
  articles : ∀ sku, (∃ line ∈ quote.lines, line.sku = sku) ↔ additions log sku ≠ []
  ordered : quote.lines.Pairwise fun earlier later =>
    openedAt log earlier.sku < openedAt log later.sku
  lines : ∀ line ∈ quote.lines, line.SumsUp (additions log line.sku)

namespace Replays

variable {log : List QuoteRequest} {quote : Quote}

theorem empty : Replays [] Quote.empty := by
  refine ⟨fun sku => ?_, .nil, List.forall_mem_nil _⟩
  refine iff_of_false ?_ (fun added => added rfl)
  rintro ⟨line, ⟨⟩, _⟩

theorem nodup (replays : quote.Replays log) : (quote.lines.map QuoteLine.sku).Nodup := by
  rw [List.Nodup, List.pairwise_map]
  refine replays.ordered.imp ?_
  intro earlier later before same
  rw [same] at before
  exact Nat.lt_irrefl _ before

/-- A log tells one quote only. -/
theorem unique {other : Quote} (replays : quote.Replays log) (others : other.Replays log) :
    other = quote := by
  have within : ∀ {some more : Quote}, some.Replays log → more.Replays log →
      ∀ line ∈ some.lines, line ∈ more.lines := by
    intro some more first second line member
    have added := (first.articles line.sku).mp ⟨line, member, rfl⟩
    obtain ⟨twin, twinMember, sameSku⟩ := (second.articles line.sku).mpr added
    have twinSums := second.lines twin twinMember
    rw [sameSku] at twinSums
    rw [(first.lines line member).unique twinSums sameSku.symm]
    exact twinMember
  have same : other.lines.Perm quote.lines := by
    rw [List.perm_ext_iff_of_nodup (List.Nodup.of_map _ others.nodup)
      (List.Nodup.of_map _ replays.nodup)]
    exact fun line => ⟨within others replays line, within replays others line⟩
  have lines : other.lines = quote.lines := by
    refine same.eq_of_pairwise ?_ others.ordered replays.ordered
    intro line twin _ _ before behind
    exact absurd before (Nat.lt_asymm behind)
  cases other
  cases quote
  cases lines
  rfl

theorem contains_iff (replays : quote.Replays log) (sku : String) :
    quote.contains sku = true ↔ additions log sku ≠ [] := by
  rw [← replays.articles, contains, line?, List.find?_isSome]
  simp only [decide_eq_true_eq]

theorem line?_eq_none_iff (replays : quote.Replays log) (sku : String) :
    quote.line? sku = none ↔ additions log sku = [] :=
  not_iff_not.mp (Option.isSome_iff_ne_none.symm.trans (replays.contains_iff sku))

/-! ## One request -/

section Steps

variable {sku : String} {item : Value} {quantity : Int}

/-- What one more addition leaves of the other articles. -/
theorem additions_of_ne
    (named : itemId item = .ok (some sku)) {other : String} (different : other ≠ sku) :
    additions (log ++ [.add item quantity]) other = additions log other := by
  rw [QuoteLog.additions_of_not_ends rfl, QuoteRequest.addition?_of_ne named different,
    Option.toList_none, List.append_nil]

theorem additions_of_itemId (named : itemId item = .ok (some sku)) :
    additions (log ++ [.add item quantity]) sku = additions log sku ++ [(item, quantity)] := by
  rw [QuoteLog.additions_of_not_ends rfl, QuoteRequest.addition?_of_itemId named]
  rfl

theorem openedAt_of_mem
    (replays : quote.Replays log) {request : QuoteRequest} {line : QuoteLine}
    (member : line ∈ quote.lines) (goesOn : request.ends line.sku = false) :
    openedAt (log ++ [request]) line.sku = openedAt log line.sku :=
  QuoteLog.openedAt_of_added ((replays.articles line.sku).mp ⟨line, member, rfl⟩) goesOn

theorem raise
    (replays : quote.Replays log) (named : itemId item = .ok (some sku)) (units : 1 ≤ quantity)
    {found : QuoteLine} (there : quote.line? sku = some found) :
    (quote.raise sku quantity).Replays (log ++ [.add item quantity]) := by
  unfold line? at there
  have foundMember : found ∈ quote.lines := List.mem_of_find?_eq_some there
  have foundSku := List.find?_some there
  rw [decide_eq_true_eq] at foundSku
  let raised (line : QuoteLine) : QuoteLine :=
    if line.sku = sku then { line with quantity := line.quantity + quantity } else line
  have lines : (quote.raise sku quantity).lines = quote.lines.map raised := rfl
  have sameSku : ∀ line, (raised line).sku = line.sku := by
    intro line
    by_cases here : line.sku = sku
    · simp only [raised, if_pos here]
    · simp only [raised, if_neg here]
  refine ⟨?_, ?_, ?_⟩
  · intro other
    have kept : (∃ line ∈ quote.lines.map raised, line.sku = other) ↔
        ∃ line ∈ quote.lines, line.sku = other := by
      simp only [List.mem_map, exists_exists_and_eq_and, sameSku]
    rw [lines, kept, replays.articles]
    by_cases here : other = sku
    · rw [here, additions_of_itemId named]
      have added := (replays.articles sku).mp ⟨found, foundMember, foundSku⟩
      exact iff_of_true added (List.append_ne_nil_of_left_ne_nil added _)
    · rw [additions_of_ne named here]
  · rw [lines, List.pairwise_map]
    refine replays.ordered.imp_of_mem ?_
    intro earlier later earlierMember laterMember before
    rw [sameSku, sameSku, replays.openedAt_of_mem earlierMember rfl,
      replays.openedAt_of_mem laterMember rfl]
    exact before
  · rw [lines, List.forall_mem_map]
    intro line member
    have sums := replays.lines line member
    rw [sameSku]
    by_cases here : line.sku = sku
    · rw [here] at sums ⊢
      rw [additions_of_itemId named]
      simp only [raised, if_pos here]
      exact sums.raised units
    · rw [additions_of_ne named here]
      simp only [raised, if_neg here]
      exact sums

theorem opens
    (replays : quote.Replays log) (named : itemId item = .ok (some sku)) (units : 1 ≤ quantity)
    (absent : quote.line? sku = none) {line : QuoteLine}
    (made : openLine item sku quantity = .ok line) :
    (⟨quote.lines ++ [line]⟩ : Quote).Replays (log ++ [.add item quantity]) := by
  have nothing : additions log sku = [] := (replays.line?_eq_none_iff sku).mp absent
  obtain ⟨sums, lineSku⟩ := QuoteLine.SumsUp.opened made units
  have others : ∀ other ∈ quote.lines, other.sku ≠ sku := by
    intro other member same
    exact (replays.articles sku).mp ⟨other, member, same⟩ nothing
  refine ⟨?_, ?_, ?_⟩
  · intro other
    have kept : (∃ found ∈ quote.lines ++ [line], found.sku = other) ↔
        additions log other ≠ [] ∨ sku = other := by
      rw [← replays.articles, ← lineSku]
      simp only [List.mem_append, List.mem_singleton, or_and_right, exists_or, exists_eq_left]
    rw [kept]
    by_cases here : other = sku
    · rw [here, additions_of_itemId named]
      exact iff_of_true (.inr rfl) (List.append_ne_nil_of_right_ne_nil _ (List.cons_ne_nil _ _))
    · rw [additions_of_ne named here]
      exact or_iff_left (Ne.symm here)
  · refine List.pairwise_append.mpr ⟨?_, List.pairwise_singleton _ _, ?_⟩
    · refine replays.ordered.imp_of_mem ?_
      intro earlier later earlierMember laterMember before
      rw [replays.openedAt_of_mem earlierMember rfl, replays.openedAt_of_mem laterMember rfl]
      exact before
    · intro earlier member last lastMember
      rw [List.mem_singleton.mp lastMember, lineSku,
        QuoteLog.openedAt_of_first nothing (QuoteRequest.addition?_of_itemId named quantity),
        replays.openedAt_of_mem member rfl]
      exact QuoteLog.openedAt_lt_length ((replays.articles earlier.sku).mp ⟨earlier, member, rfl⟩)
  · rw [List.forall_mem_append, List.forall_mem_singleton]
    refine ⟨?_, ?_⟩
    · intro other member
      rw [additions_of_ne named (others other member)]
      exact replays.lines other member
    · rw [lineSku, additions_of_itemId named, nothing]
      exact sums

theorem removes (replays : quote.Replays log) (sku : String) :
    (quote.remove sku).Replays (log ++ [.remove sku]) := by
  have ended : (QuoteRequest.remove sku).ends sku = true := decide_eq_true rfl
  have goesOn : ∀ {other : String}, other ≠ sku → (QuoteRequest.remove sku).ends other = false :=
    fun different => decide_eq_false (Ne.symm different)
  have kept : ∀ {other : String}, other ≠ sku →
      additions (log ++ [.remove sku]) other = additions log other := by
    intro other different
    rw [QuoteLog.additions_of_not_ends (goesOn different)]
    exact List.append_nil _
  refine ⟨?_, ?_, ?_⟩
  · intro other
    by_cases here : other = sku
    · rw [here, QuoteLog.additions_of_ends ended]
      refine iff_of_false ?_ (fun added => added rfl)
      rintro ⟨line, member, same⟩
      exact of_decide_eq_true (List.mem_filter.mp member).2 same
    · rw [kept here, ← replays.articles]
      refine ⟨?_, ?_⟩
      · rintro ⟨line, member, same⟩
        exact ⟨line, (List.mem_filter.mp member).1, same⟩
      · rintro ⟨line, member, same⟩
        exact ⟨line, List.mem_filter.mpr ⟨member, decide_eq_true (same ▸ here)⟩, same⟩
  · refine (replays.ordered.filter _).imp_of_mem ?_
    intro earlier later earlierMember laterMember before
    obtain ⟨earlierThere, earlierOther⟩ := List.mem_filter.mp earlierMember
    obtain ⟨laterThere, laterOther⟩ := List.mem_filter.mp laterMember
    rw [replays.openedAt_of_mem earlierThere (goesOn (of_decide_eq_true earlierOther)),
      replays.openedAt_of_mem laterThere (goesOn (of_decide_eq_true laterOther))]
    exact before
  · intro line member
    obtain ⟨there, different⟩ := List.mem_filter.mp member
    rw [kept (of_decide_eq_true different)]
    exact replays.lines line there

theorem clears (log : List QuoteRequest) : Quote.empty.Replays (log ++ [.clear]) := by
  refine ⟨fun sku => ?_, .nil, List.forall_mem_nil _⟩
  rw [QuoteLog.additions_of_ends rfl]
  refine iff_of_false ?_ (fun added => added rfl)
  rintro ⟨line, ⟨⟩, _⟩

/-- A request that succeeds is one more entry of the log. -/
theorem answered
    (replays : quote.Replays log) {request : QuoteRequest}
    (succeeded : (quote.answer request).1.succeeds = true) :
    (quote.answer request).2.Replays (log ++ [request]) := by
  cases request with
  | remove sku => exact replays.removes sku
  | clear => exact clears log
  | add item quantity =>
      rw [answer_add] at succeeded ⊢
      cases added : quote.add item quantity with
      | error fault =>
          rw [added] at succeeded
          cases succeeded
      | ok result =>
          obtain ⟨next, line, records⟩ := result
          obtain ⟨sku, named, units, there | absent⟩ := exists_of_add_eq_ok added
          · obtain ⟨found, there, rfl⟩ := there
            exact replays.raise named units there
          · obtain ⟨absent, made, rfl⟩ := absent
            exact replays.opens named units absent made

end Steps

/-! ## A run -/

/-- A quote replays the requests that it granted. -/
theorem run (replays : quote.Replays log) (requests : List QuoteRequest) :
    (quote.after requests).Replays (log ++ quote.granted requests) := by
  induction requests generalizing log quote with
  | nil =>
      rw [granted, List.append_nil]
      exact replays
  | cons request later inductionHypothesis =>
      rw [after, List.foldl_cons, granted]
      by_cases succeeded : (quote.answer request).1.succeeds = true
      · rw [if_pos succeeded, List.append_cons]
        exact inductionHypothesis (replays.answered succeeded)
      · rw [if_neg succeeded]
        have same := answer_of_not_succeeds (Bool.eq_false_iff.mpr succeeded)
        rw [same]
        exact inductionHypothesis replays

end Replays

/-- Whatever is asked of an empty quote, and whichever requests fail: the quote is the
one that the log of the others tells, with one line for each article.  A line is on
backorder exactly when its stock is known and less than the units added.  Of what is
asked next, a request that fails changes nothing, and a removal finds an article
exactly when it was added since its line was last ended. -/
theorem run_replays_log (requests : List QuoteRequest) :
    let quote := Quote.empty.after requests
    let log := Quote.empty.granted requests
    (quote.Replays log ∧ ∀ other : Quote, other.Replays log → other = quote) ∧
      (quote.lines.map QuoteLine.sku).Nodup ∧
      (∀ line ∈ quote.lines, line.isBackorder = true ↔
        ∃ stock, line.stock = some stock ∧
          stock < ((additions log line.sku).map Prod.snd).sum) ∧
      (∀ request fault,
        (quote.answer request).1 = .failed fault → (quote.answer request).2 = quote) ∧
      ∀ sku, (quote.answer (.remove sku)).1 = .removed true ↔ additions log sku ≠ [] := by
  intro quote log
  have replays : quote.Replays log := Replays.empty.run requests
  refine ⟨⟨replays, fun other => replays.unique⟩, replays.nodup, ?_, fun _ _ => answer_of_failed, ?_⟩
  · intro line member
    rw [QuoteLine.isBackorder, Option.any_eq_true, (replays.lines line member).quantity]
    simp only [decide_eq_true_eq]
  · intro sku
    rw [← replays.contains_iff, answer, QuoteAnswer.removed.injEq]

/-- An article that comes back is a new line behind the others. -/
example :
    let hinge := Value.dict [("id", .text "A-1")]
    let door := Value.dict [("id", .text "B-2")]
    let quote := Quote.empty.after [.add hinge 2, .add door 1, .remove "A-1", .add hinge 0, .add hinge 3]
    quote.lines.map (fun line => (line.sku, line.quantity)) = [("B-2", 1), ("A-1", 3)] := by
  decide +kernel

end Quote

end QuoteDesk
