import QuoteDesk.Proofs.Analysis.Decoding
import QuoteDesk.Proofs.Text.Utf8

/-!
# Code fences do not count

A text that opens an object may be put between code fences, with the name of the language
behind the first one and blanks wherever they may stand.  The name cannot be mixed up with
the text, since neither a blank nor a brace starts it, and the last three backticks are the
closing fence whatever the text ends in.  So the fenced text is read as the text itself, and
the bytes of both are read as they are.
-/

namespace QuoteDesk

open Text

namespace Analysis

/-- What stands around a text between code fences: perhaps the name of the language in any
case, blanks inside of the fences and blanks around the whole. -/
structure Fencing where
  start : List Char
  name : List Char
  before : List Char
  behind : List Char
  stop : List Char
  startBlank : ∀ c ∈ start, isBlank c = true
  known : name = [] ∨ name.map foldedLetter = fenceName
  beforeBlank : ∀ c ∈ before, isBlank c = true
  behindBlank : ∀ c ∈ behind, isBlank c = true
  stopBlank : ∀ c ∈ stop, isBlank c = true

namespace Fencing

/-- The text between the fences. -/
def body (fencing : Fencing) (chars : List Char) : List Char :=
  fencing.before ++ chars ++ fencing.behind

/-- A text put between code fences. -/
def put (fencing : Fencing) (chars : List Char) : List Char :=
  fencing.start ++ (fence ++ (fencing.name ++ (fencing.body chars ++ fence))) ++ fencing.stop

end Fencing

/-- The first visible character of a text opens an object. -/
def OpensObject (chars : List Char) : Prop :=
  (trimStart isBlank chars).head? = some '{'

/-- A payload is a text, or the bytes of one. -/
inductive Carries : Value → List Char → Prop
  | text (s : String) : Carries (.text s) s.toList
  | bytes (chars : List Char) : Carries (.bytes (Utf8.encode chars)) chars

theorem Carries.spells
    {payload : Value} {chars : List Char} (carries : Carries payload chars) :
    Spells payload chars := by
  cases carries with
  | text s => exact .text s
  | bytes chars =>
      have same : Spells (.bytes (Utf8.encode chars)) (Utf8.decodeLossy (Utf8.encode chars)) :=
        .bytes _
      rwa [Utf8.decodeLossy_encode] at same

/-! ## Texts that open an object -/

theorem foldedLetter_ne_of_blank_or_brace
    {c : Char} (plain : isBlank c = true ∨ c = '{') : foldedLetter c ≠ 'j' := by
  have noCapital : ¬ (c.val ≥ 'A'.val ∧ c.val ≤ 'Z'.val) := by
    rintro ⟨least, most⟩
    change 65 ≤ c.toNat at least
    change c.toNat ≤ 90 at most
    rcases plain with blank | rfl
    · simp only [isBlank, Bool.or_eq_true, Bool.and_eq_true, decide_eq_true_eq, beq_iff_eq] at blank
      omega
    · exact absurd most (by decide)
  have small : c.toLower = c := dif_neg noCapital
  unfold foldedLetter
  split
  · decide
  split
  · decide
  · rw [small]
    rintro rfl
    rcases plain with blank | same
    · cases blank
    · cases same

section Opening

variable {chars : List Char}

theorem OpensObject.exists_head (opens : OpensObject chars) :
    ∃ c rest, chars = c :: rest ∧ (isBlank c = true ∨ c = '{') := by
  cases chars with
  | nil => cases opens
  | cons c rest =>
      refine ⟨c, rest, rfl, ?_⟩
      cases blank : isBlank c with
      | true => exact .inl rfl
      | false =>
          rw [OpensObject, trimStart_of_head rest blank] at opens
          exact .inr (Option.some.inj opens)

theorem OpensObject.exists_trim (opens : OpensObject chars) :
    ∃ rest, trim chars = '{' :: rest := by
  obtain ⟨rest, shape⟩ := List.head?_eq_some_iff.mp opens
  refine ⟨trimEnd isBlank rest, ?_⟩
  rw [trim, shape, ← List.nil_append ('{' :: rest), trimEnd_append_cons (by decide)]
  rfl

theorem OpensObject.unfenced_trim (opens : OpensObject chars) :
    unfenced (trim chars) = trim chars := by
  obtain ⟨rest, shape⟩ := opens.exists_trim
  rw [shape]
  rfl

end Opening

/-! ## Between the fences -/

namespace Fencing

variable (fencing : Fencing) {chars : List Char}

theorem exists_body_head (opens : OpensObject chars) :
    ∃ c rest, fencing.body chars = c :: rest ∧ (isBlank c = true ∨ c = '{') := by
  unfold body
  cases shape : fencing.before with
  | nil =>
      obtain ⟨c, rest, rfl, plain⟩ := opens.exists_head
      exact ⟨c, rest ++ fencing.behind, rfl, plain⟩
  | cons c rest =>
      refine ⟨c, rest ++ chars ++ fencing.behind, rfl, .inl (fencing.beforeBlank c ?_)⟩
      rw [shape]
      exact List.mem_cons_self

theorem encloses_body (opens : OpensObject chars) :
    Encloses (fence ++ (fencing.name ++ (fencing.body chars ++ fence))) (fencing.body chars) := by
  rcases fencing.known with unnamed | known
  · -- What comes right behind the fence is a blank or the brace, and neither begins the name.
    refine .nameless ?_ (by rw [unnamed, List.nil_append])
    obtain ⟨c, rest, shape, plain⟩ := fencing.exists_body_head opens
    rw [shape, List.cons_append, List.map_cons, fenceName, List.cons_prefix_cons]
    exact fun named => foldedLetter_ne_of_blank_or_brace plain named.1.symm
  · exact .named fencing.name known rfl

theorem trim_put :
    trim (fencing.put chars) = fence ++ (fencing.name ++ (fencing.body chars ++ fence)) := by
  rw [put, trim_append_blank fencing.startBlank fencing.stopBlank]
  apply trim_eq_self
  constructor
  · intro c first
    cases first
    decide
  · intro c last
    rw [← List.append_assoc, ← List.append_assoc, List.getLast?_append] at last
    cases last
    decide

/-- What stands between the fences is the text, whatever it holds and ends in. -/
theorem unwraps_put (opens : OpensObject chars) :
    Unwraps (trim (fencing.put chars)) (trim chars) := by
  refine .inl ⟨fencing.body chars, ?_, ?_⟩
  · rw [trim_put]
    exact fencing.encloses_body opens
  · rw [body, trim_append_blank fencing.beforeBlank fencing.behindBlank]

/-- Fences around an object make no difference to its reading. -/
theorem readText_put (opens : OpensObject chars) :
    readText (fencing.put chars) = readText chars := by
  have full : (trim chars).isEmpty = false := by
    obtain ⟨rest, shape⟩ := opens.exists_trim
    rw [shape, List.isEmpty_cons]
  have fencedFull : (trim (fencing.put chars)).isEmpty = false := by
    rw [trim_put]
    rfl
  simp only [readText, full, fencedFull, ← (fencing.unwraps_put opens).eq_unfenced,
    opens.unfenced_trim]

/-- A text between code fences is read as the text alone, whatever the validator. -/
theorem readWith_put
    (opens : OpensObject chars) {plain fenced : Value} (carriesPlain : Carries plain chars)
    (carriesFenced : Carries fenced (fencing.put chars)) (validator : Validator) :
    readWith validator fenced = readWith validator plain := by
  simp only [readWith, carriesFenced.spells.mappingOf_eq, carriesPlain.spells.mappingOf_eq,
    fencing.readText_put opens]

/-- What is read of a text that opens an object is the text without the blanks around it, alone
and between code fences, as a text and as bytes.  So there is the same analysis, or the same
fault. -/
theorem read_put
    (opens : OpensObject chars) {plain fenced : Value} (carriesPlain : Carries plain chars)
    (carriesFenced : Carries fenced (fencing.put chars)) :
    Writes plain (String.ofList (trim chars)) ∧ Writes fenced (String.ofList (trim chars)) ∧
      read fenced = read plain := by
  have alone : Unwraps (trim chars) (trim chars) := by
    have unwraps := unwraps_unfenced (trim chars)
    rwa [opens.unfenced_trim] at unwraps
  refine ⟨⟨chars, _, carriesPlain.spells, alone, rfl⟩,
    ⟨_, _, carriesFenced.spells, fencing.unwraps_put opens, rfl⟩, ?_⟩
  exact fencing.readWith_put opens carriesPlain carriesFenced _

end Fencing

/-- Fences with the name in capitals, a line break behind the first one and blanks around. -/
def capitalFencing : Fencing where
  start := [' ']
  name := "JSON".toList
  before := ['\n']
  behind := []
  stop := ['\n', '\t']
  startBlank := List.forall_mem_singleton.mpr rfl
  known := .inr (by decide)
  beforeBlank := List.forall_mem_singleton.mpr rfl
  behindBlank := List.forall_mem_nil _
  stopBlank := List.forall_mem_cons.mpr ⟨rfl, List.forall_mem_singleton.mpr rfl⟩

/-- An analysis without articles, with backticks in one of its texts. -/
def backticked : String :=
  "\x7b\"bom\":\x7b\"lineItems\":[]\x7d,\"infrastructure\":\x7b\"note\":\"```\"\x7d\x7d"

theorem read_put_capitalFencing :
    OpensObject backticked.toList ∧
      Carries (.text backticked) backticked.toList ∧
      Carries (.bytes (Utf8.encode (capitalFencing.put backticked.toList)))
        (capitalFencing.put backticked.toList) ∧
      capitalFencing.put backticked.toList =
        (" ```JSON\n" ++ backticked ++ "```\n\t").toList ∧
      (read (.text backticked)).isOk = true ∧
      Writes (.text backticked) (String.ofList (trim backticked.toList)) ∧
      Writes (.bytes (Utf8.encode (capitalFencing.put backticked.toList)))
        (String.ofList (trim backticked.toList)) ∧
      read (.bytes (Utf8.encode (capitalFencing.put backticked.toList))) =
        read (.text backticked) := by
  have opens : OpensObject backticked.toList := by
    unfold OpensObject
    decide
  refine ⟨opens, .text _, .bytes _, by decide, by decide +kernel, ?_⟩
  exact capitalFencing.read_put opens (.text _) (.bytes _)

end Analysis

end QuoteDesk
