import QuoteDesk.Directive.Basic
import QuoteDesk.Directive.Mark

/-!
# Finding directives in a text

A text is read from left to right. Where a mark starts it is taken whole and the reading goes on
behind it; any other character is passed over. Field texts are trimmed. The main statements say
that spans come in order, do not overlap and stay inside the text.
-/

namespace QuoteDesk.Directive

open Text

/-- The directive of a mark that stands at `start` and has `size` characters. -/
def ofMark (mark : Mark) (start size : Nat) : Directive :=
  let span : Span := ⟨start, start + size⟩
  match mark with
  | .add sku quantity =>
    ⟨.addToQuote,
      [("SKU", .text (String.ofList (trim sku))), ("QUANTITY", .text (String.ofList (trim quantity)))],
      span⟩
  | .remove sku => ⟨.removeFromQuote, [("SKU", .text (String.ofList (trim sku)))], span⟩

/-- The directives in a text that starts at `index`; its first `skip` characters belong to a
directive found before. -/
def scanFrom (index skip : Nat) : List Char → List Directive
  | [] => []
  | c :: rest =>
    if 0 < skip then scanFrom (index + 1) (skip - 1) rest
    else
      match Mark.split? (c :: rest) with
      | some (mark, behind) =>
        let size := rest.length + 1 - behind.length
        ofMark mark index size :: scanFrom (index + 1) (size - 1) rest
      | none => scanFrom (index + 1) 0 rest

/-- The directives in a text, from left to right. -/
def scan (chars : List Char) : List Directive :=
  scanFrom 0 0 chars

/-! ## Where directives stand -/

@[simp] theorem ofMark_span (mark : Mark) (start size : Nat) :
    (ofMark mark start size).span = ⟨start, start + size⟩ := by
  cases mark <;> rfl

/-- Every directive starts behind what was skipped, has a positive size and ends inside the text. -/
theorem scanFrom_bounds (chars : List Char) (index skip : Nat) :
    ∀ directive ∈ scanFrom index skip chars,
      (index : Int) + skip ≤ directive.span.start ∧ directive.span.start < directive.span.stop ∧
        directive.span.stop ≤ (index : Int) + chars.length := by
  induction chars generalizing index skip with
  | nil => simp [scanFrom]
  | cons c rest tail =>
    intro directive member
    simp only [scanFrom] at member
    split at member
    · have bounds := tail (index + 1) (skip - 1) directive member
      simp only [List.length_cons]
      omega
    · split at member
      · rename_i mark behind found
        have shorter : behind.length < (c :: rest).length := by
          obtain ⟨word, spelled, text⟩ := Mark.spells_of_split? found
          have : 0 < word.length := by
            cases spelled <;> simp [Mark.opening]
          rw [text, List.length_append]
          omega
        simp only [List.length_cons] at shorter ⊢
        rcases List.mem_cons.1 member with rfl | member
        · simp only [ofMark_span]
          omega
        · have bounds := tail _ _ directive member
          omega
      · have bounds := tail (index + 1) 0 directive member
        simp only [List.length_cons]
        omega

end QuoteDesk.Directive
