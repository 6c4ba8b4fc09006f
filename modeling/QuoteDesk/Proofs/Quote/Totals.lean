import Mathlib.Algebra.BigOperators.Ring.Finset
import QuoteDesk.Proofs.Console.Showing
import QuoteDesk.Proofs.Number.Exactness
import QuoteDesk.Proofs.Quote.Replay

/-!
# Totals of quotes

A total is worked out line by line.  While what each line comes to and each sum on the way
is representable, nothing is refused and nothing is rounded, so the total is the exact sum.
It is told by what the log orders of each article, and neither the order of the articles
nor the number of additions counts.
-/

namespace QuoteDesk

open Number

namespace QuoteLine

/-- What a line comes to: its price times its quantity, or nothing without a price. -/
def worth (line : QuoteLine) : ℚ :=
  (line.unitPrice.bind Decimal.toRat?).getD 0 * line.quantity

theorem worth_of_unpriced {line : QuoteLine} (unpriced : line.unitPrice = none) :
    line.worth = 0 := by
  rw [worth, unpriced]
  exact zero_mul _

theorem worth_of_priced
    {line : QuoteLine} {price : Decimal} {q : ℚ} (priced : line.unitPrice = some price)
    (known : price.toRat? = some q) : line.worth = q * line.quantity := by
  rw [worth, priced, Option.bind_some, known, Option.getD_some]

end QuoteLine

namespace Quote

variable {quote : Quote} {line : QuoteLine}

/-! ## Adding up -/

/-- Every price is a finite decimal, and neither what a line comes to nor a sum of the lines
up to one of them needs rounding. -/
structure Precise (quote : Quote) : Prop where
  prices : ∀ line ∈ quote.lines, ∀ price, line.unitPrice = some price →
    ∃ q, price.toRat? = some q
  products : ∀ line ∈ quote.lines, Decimal.Representable line.worth
  sums : ∀ earlier, earlier <+: quote.lines →
    Decimal.Representable (earlier.map QuoteLine.worth).sum

/-- One more line adds to the sum what it comes to. -/
theorem exists_withLine
    {sum : Decimal} {q : ℚ} (known : sum.toRat? = some q)
    (prices : ∀ price, line.unitPrice = some price → ∃ r, price.toRat? = some r)
    (product : Decimal.Representable line.worth) (fits : Decimal.Representable (q + line.worth)) :
    ∃ next, withLine sum line = .ok next ∧ next.toRat? = some (q + line.worth) := by
  cases priced : line.unitPrice with
  | none =>
      have nothing : line.total = none := by rw [QuoteLine.total, priced, Option.map_none]
      refine ⟨sum, by rw [withLine, nothing], ?_⟩
      rw [QuoteLine.worth_of_unpriced priced, add_zero, known]
  | some price =>
      obtain ⟨r, priceKnown⟩ := prices price priced
      have lineTotal : line.total = some (price.mul (.ofInt line.quantity)) := by
        rw [QuoteLine.total, priced, Option.map_some]
      rw [QuoteLine.worth_of_priced priced priceKnown] at product fits ⊢
      obtain ⟨amount, multiplied, amountKnown⟩ :=
        Decimal.exists_mul priceKnown (Decimal.toRat?_ofInt line.quantity) product
      obtain ⟨next, summed, nextKnown⟩ := Decimal.exists_add known amountKnown fits
      refine ⟨next, ?_, nextKnown⟩
      rw [withLine, lineTotal]
      dsimp only
      rw [multiplied]
      exact summed

/-- The induction is on the lines to come; the sum so far is exact. -/
theorem exists_foldlM_withLine
    {lines : List QuoteLine} {sum : Decimal} {q : ℚ} (known : sum.toRat? = some q)
    (prices : ∀ line ∈ lines, ∀ price, line.unitPrice = some price → ∃ r, price.toRat? = some r)
    (products : ∀ line ∈ lines, Decimal.Representable line.worth)
    (sums : ∀ earlier, earlier <+: lines →
      Decimal.Representable (q + (earlier.map QuoteLine.worth).sum)) :
    ∃ total, lines.foldlM withLine sum = .ok total ∧
      total.toRat? = some (q + (lines.map QuoteLine.worth).sum) := by
  induction lines generalizing sum q with
  | nil => exact ⟨sum, rfl, by rw [List.map_nil, List.sum_nil, add_zero, known]⟩
  | cons line rest inductionHypothesis =>
      obtain ⟨linePrices, restPrices⟩ := List.forall_mem_cons.mp prices
      obtain ⟨product, restProducts⟩ := List.forall_mem_cons.mp products
      have first : Decimal.Representable (q + line.worth) := by
        have alone := sums [line] (List.prefix_cons_inj line |>.mpr List.nil_prefix)
        rwa [List.map_singleton, List.sum_singleton] at alone
      obtain ⟨next, added, nextKnown⟩ := exists_withLine known linePrices product first
      have restSums : ∀ earlier, earlier <+: rest →
          Decimal.Representable (q + line.worth + (earlier.map QuoteLine.worth).sum) := by
        intro earlier before
        have longer := sums (line :: earlier) ((List.prefix_cons_inj line).mpr before)
        rwa [List.map_cons, List.sum_cons, ← add_assoc] at longer
      obtain ⟨total, summed, totalKnown⟩ :=
        inductionHypothesis nextKnown restPrices restProducts restSums
      refine ⟨total, ?_, ?_⟩
      · rw [List.foldlM_cons, added]
        exact summed
      · rw [totalKnown, List.map_cons, List.sum_cons, add_assoc]

/-- The total of a precise quote is the exact sum of its lines. -/
theorem Precise.exists_total (precise : quote.Precise) :
    ∃ total, quote.total = .ok total ∧
      total.toRat? = some (quote.lines.map QuoteLine.worth).sum := by
  have zero : Decimal.zero.toRat? = some 0 := by decide +kernel
  have sums : ∀ earlier, earlier <+: quote.lines →
      Decimal.Representable (0 + (earlier.map QuoteLine.worth).sum) := by
    intro earlier before
    rw [zero_add]
    exact precise.sums earlier before
  obtain ⟨total, summed, known⟩ :=
    exists_foldlM_withLine zero precise.prices precise.products sums
  exact ⟨total, summed, by rw [known, zero_add]⟩

/-- A quote whose lines come to whole units of one decimal place, such as cents, is precise
as long as it does not come to too many of them. -/
theorem Precise.of_units
    {place : Int} (least : Decimal.leastExponent ≤ place)
    (greatest : Decimal.precision + place ≤ Decimal.greatestPower + 1) (units : QuoteLine → ℕ)
    (prices : ∀ line ∈ quote.lines, ∀ price, line.unitPrice = some price →
      ∃ q, price.toRat? = some q)
    (whole : ∀ line ∈ quote.lines, line.worth = units line * 10 ^ place)
    (short : (quote.lines.map units).sum < 10 ^ Decimal.precision) :
    quote.Precise where
  prices := prices
  products line member := by
    have fewer : units line ≤ (quote.lines.map units).sum :=
      List.le_sum_of_mem (List.mem_map_of_mem member)
    rw [whole line member]
    exact Decimal.representable_of_short (fewer.trans_lt short) least greatest
  sums earlier before := by
    have summed : (earlier.map QuoteLine.worth).sum =
        ((earlier.map units).sum : ℕ) * (10 : ℚ) ^ place := by
      have worths : earlier.map QuoteLine.worth =
          earlier.map fun line => (units line : ℚ) * 10 ^ place :=
        List.map_congr_left fun line member => whole line (before.subset member)
      rw [worths, List.sum_map_mul_right, Nat.cast_list_sum, List.map_map]
      rfl
    have fewer : (earlier.map units).sum ≤ (quote.lines.map units).sum :=
      (before.sublist.map units).sum_le_sum fun _ _ => Nat.zero_le _
    rw [summed]
    exact Decimal.representable_of_short (fewer.trans_lt short) least greatest

end Quote

/-! ## What a log orders -/

namespace QuoteLog

/-- What a log orders of an article: the price of the item that was added first since its
line was last ended, and all units added since then. -/
def order? (log : List QuoteRequest) (sku : String) : Option (Option Decimal × Int) :=
  (additions log sku).head?.map fun first =>
    (toDecimal (first.1.field "price" .null), ((additions log sku).map Prod.snd).sum)

theorem order?_eq_none_iff {log : List QuoteRequest} {sku : String} :
    order? log sku = none ↔ additions log sku = [] := by
  rw [order?, Option.map_eq_none_iff, List.head?_eq_none_iff]

end QuoteLog

theorem QuoteLine.SumsUp.order?_eq
    {line : QuoteLine} {log : List QuoteRequest}
    (sums : line.SumsUp (QuoteLog.additions log line.sku)) :
    QuoteLog.order? log line.sku = some (line.unitPrice, line.quantity) := by
  obtain ⟨item, head, -, price, -⟩ := sums.first
  rw [List.head?_map, Option.map_eq_some_iff] at head
  obtain ⟨first, firstEq, rfl⟩ := head
  rw [QuoteLog.order?, firstEq, Option.map_some, price, sums.quantity]

namespace Quote

/-- The article, the price and the quantity of a line. -/
def entry (line : QuoteLine) : String × Option Decimal × Int :=
  (line.sku, line.unitPrice, line.quantity)

namespace Replays

variable {log : List QuoteRequest} {quote : Quote}

theorem mem_entries_iff (replays : quote.Replays log) {sku : String}
    {order : Option Decimal × Int} :
    (sku, order) ∈ quote.lines.map entry ↔ QuoteLog.order? log sku = some order := by
  rw [List.mem_map]
  constructor
  · rintro ⟨line, member, same⟩
    cases same
    exact (replays.lines line member).order?_eq
  · intro ordered
    have added : QuoteLog.additions log sku ≠ [] := by
      rw [Ne, ← QuoteLog.order?_eq_none_iff, ordered]
      rintro ⟨⟩
    obtain ⟨line, member, rfl⟩ := (replays.articles sku).mpr added
    rw [(replays.lines line member).order?_eq] at ordered
    cases ordered
    exact ⟨line, member, rfl⟩

theorem nodup_entries (replays : quote.Replays log) : (quote.lines.map entry).Nodup := by
  refine List.Nodup.of_map Prod.fst ?_
  rw [List.map_map]
  exact replays.nodup

/-- Two logs order the same when the entries of their quotes are the same up to their order. -/
theorem perm_entries_iff
    {other : Quote} {more : List QuoteRequest} (replays : quote.Replays log)
    (others : other.Replays more) :
    (other.lines.map entry).Perm (quote.lines.map entry) ↔
      ∀ sku, QuoteLog.order? more sku = QuoteLog.order? log sku := by
  rw [List.perm_ext_iff_of_nodup others.nodup_entries replays.nodup_entries]
  constructor
  · intro same sku
    refine Option.ext fun order => ?_
    rw [← others.mem_entries_iff, ← replays.mem_entries_iff, same]
  · rintro same ⟨sku, order⟩
    rw [others.mem_entries_iff, replays.mem_entries_iff, same]

end Replays

/-- The worth of a line can be told from its entry. -/
theorem sum_worth_of_perm
    {quote other : Quote} (entries : (other.lines.map entry).Perm (quote.lines.map entry)) :
    (other.lines.map QuoteLine.worth).sum = (quote.lines.map QuoteLine.worth).sum := by
  let value (entry : String × Option Decimal × Int) : ℚ :=
    (entry.2.1.bind Decimal.toRat?).getD 0 * entry.2.2
  have worths (lines : List QuoteLine) :
      lines.map QuoteLine.worth = (lines.map entry).map value := by
    rw [List.map_map]
    rfl
  rw [worths, worths]
  exact (entries.map value).sum_eq

/-- Whatever is asked of an empty quote: if the prices are finite decimals and neither the
products nor the sums on the way need rounding, there is a total, and it is the exact sum
of price times all units added.  So it is the same for the lines in any other order, and
for any other requests that order the same of each article. -/
theorem run_total_exact
    (requests : List QuoteRequest) (precise : (Quote.empty.after requests).Precise) :
    let quote := Quote.empty.after requests
    let log := Quote.empty.granted requests
    let sum := (quote.lines.map QuoteLine.worth).sum
    (∃ total, quote.total = .ok total ∧ total.toRat? = some sum) ∧
      (∀ line ∈ quote.lines, QuoteLog.order? log line.sku = some (line.unitPrice, line.quantity)) ∧
      (∀ other : Quote, other.lines.Perm quote.lines → other.Precise →
        ∃ total, other.total = .ok total ∧ total.toRat? = some sum) ∧
      ∀ others : List QuoteRequest, (Quote.empty.after others).Precise →
        (∀ sku, QuoteLog.order? (Quote.empty.granted others) sku = QuoteLog.order? log sku) →
        ∃ total, (Quote.empty.after others).total = .ok total ∧ total.toRat? = some sum := by
  intro quote log sum
  have replays : quote.Replays log := Replays.empty.run requests
  refine ⟨precise.exists_total, fun line member => (replays.lines line member).order?_eq, ?_, ?_⟩
  · intro other same otherPrecise
    obtain ⟨total, summed, known⟩ := otherPrecise.exists_total
    exact ⟨total, summed, known.trans (congrArg some (same.map QuoteLine.worth).sum_eq)⟩
  · intro others otherPrecise same
    obtain ⟨total, summed, known⟩ := otherPrecise.exists_total
    have entries := (replays.perm_entries_iff (Replays.empty.run others)).mpr same
    exact ⟨total, summed, known.trans (congrArg some (sum_worth_of_perm entries))⟩

/-! ### One order in two ways -/

/-- A door whose price is written with cents. -/
def door : Value :=
  .dict [("id", .text "A-1"), ("price", .text "120.05")]

/-- A camera whose price is a binary number. -/
def camera : Value :=
  .dict [("id", .text "B-2"), ("price", .float (Binary64.ofInt 210))]

/-- A sample without a price. -/
def sample : Value :=
  .dict [("id", .text "C-3")]

/-- Every article is added once. -/
def atOnce : List QuoteRequest :=
  [.add door 3, .add sample 4, .add camera 1]

/-- The same articles are added in another order and bit by bit. -/
def bitByBit : List QuoteRequest :=
  [.add camera 1, .add door 5, .remove "A-1", .add sample 1, .add door 1, .add sample 3,
    .add door 2]

/-- What the lines of these two come to, in cents. -/
def cents (line : QuoteLine) : ℕ :=
  if line.sku = "A-1" then 36015 else if line.sku = "B-2" then 21000 else 0

/-- Prices in cents are precise as long as their sum has few enough digits. -/
theorem precise_of_cents
    (requests : List QuoteRequest)
    (counted : ∀ line ∈ (Quote.empty.after requests).lines,
      (line.unitPrice.all fun price => price.toRat?.isSome) = true ∧
        line.worth = mkRat (cents line) 100)
    (short : ((Quote.empty.after requests).lines.map cents).sum < 10 ^ Decimal.precision) :
    (Quote.empty.after requests).Precise := by
  have least : Decimal.leastExponent ≤ -2 := by decide
  refine .of_units least (by decide) cents ?_ ?_ short
  · intro line member price priced
    have finite := (counted line member).1
    rw [priced, Option.all_some] at finite
    exact Option.isSome_iff_exists.mp finite
  · intro line member
    rw [(counted line member).2, Rat.mkRat_eq_div]
    norm_num [div_eq_mul_inv]

theorem precise_atOnce : (Quote.empty.after atOnce).Precise :=
  precise_of_cents atOnce (by decide +kernel) (by decide +kernel)

theorem precise_bitByBit : (Quote.empty.after bitByBit).Precise :=
  precise_of_cents bitByBit (by decide +kernel) (by decide +kernel)

theorem order?_bitByBit (sku : String) :
    QuoteLog.order? (Quote.empty.granted bitByBit) sku =
      QuoteLog.order? (Quote.empty.granted atOnce) sku := by
  have entries : ((Quote.empty.after bitByBit).lines.map entry).Perm
      ((Quote.empty.after atOnce).lines.map entry) := by
    decide +kernel
  exact ((Replays.empty.run atOnce).perm_entries_iff (Replays.empty.run bitByBit)).mp entries sku

/-- Both orders total to 570.15. -/
theorem run_total_exact_doorAndCamera :
    ((Quote.empty.after atOnce).Precise ∧ (Quote.empty.after bitByBit).Precise ∧
        ∀ sku, QuoteLog.order? (Quote.empty.granted bitByBit) sku =
          QuoteLog.order? (Quote.empty.granted atOnce) sku) ∧
      (∃ total, (Quote.empty.after atOnce).total = .ok total ∧
        total.toRat? = some (57015 / 100)) ∧
      ∃ total, (Quote.empty.after bitByBit).total = .ok total ∧
        total.toRat? = some (57015 / 100) := by
  have sum : ((Quote.empty.after atOnce).lines.map QuoteLine.worth).sum = 57015 / 100 := by
    decide +kernel
  obtain ⟨atOnceTotal, -, -, same⟩ := run_total_exact atOnce precise_atOnce
  have bitByBitTotal := same bitByBit precise_bitByBit order?_bitByBit
  rw [sum] at atOnceTotal bitByBitTotal
  exact ⟨⟨precise_atOnce, precise_bitByBit, order?_bitByBit⟩, atOnceTotal, bitByBitTotal⟩

end Quote

end QuoteDesk
