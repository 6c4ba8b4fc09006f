import Mathlib.Data.List.Chain
import QuoteDesk.Number.Binary64.Text
import QuoteDesk.Proofs.Number.Numerals
import QuoteDesk.Proofs.Text.Trimming

/-!
# Texts that write a number

A grammar says which texts write a whole number and which write a binary number.  The
readers take the texts of the grammar and no others, each as the number that it writes.
-/

namespace QuoteDesk.Number

open Text

variable {chars kept digits rest : List Char}

/-! ## Low lines -/

/-- What may stand side by side: beside a low line stands a digit. -/
def Adjoins (left right : Char) : Prop :=
  (left = '_' → isAsciiDigit right = true) ∧ (right = '_' → isAsciiDigit left = true)

/-- Every low line stands between two digits; the blanks stand for the ends of the text. -/
def MarksParted (chars : List Char) : Prop :=
  (' ' :: (chars ++ [' '])).IsChain Adjoins

/-- A text without its low lines. -/
def unmarked (chars : List Char) : List Char :=
  chars.filter (· ≠ '_')

theorem unmarked_mark (rest : List Char) : unmarked ('_' :: rest) = unmarked rest := rfl

theorem unmarked_cons {c : Char} (plain : c ≠ '_') (rest : List Char) :
    unmarked (c :: rest) = c :: unmarked rest :=
  List.filter_cons_of_pos (decide_eq_true plain)

theorem adjoins_mark_right {c : Char} : Adjoins c '_' ↔ isAsciiDigit c = true := by
  refine ⟨fun adjoins => adjoins.2 rfl, fun digit => ⟨?_, fun _ => digit⟩⟩
  rintro rfl
  exact absurd digit (by decide)

theorem adjoins_mark_left {c : Char} : Adjoins '_' c ↔ isAsciiDigit c = true := by
  refine ⟨fun adjoins => adjoins.1 rfl, fun digit => ⟨fun _ => digit, ?_⟩⟩
  rintro rfl
  exact absurd digit (by decide)

theorem adjoins_plain {left right : Char} (leftPlain : left ≠ '_') (rightPlain : right ≠ '_') :
    Adjoins left right :=
  ⟨fun mark => absurd mark leftPlain, fun mark => absurd mark rightPlain⟩

theorem ne_mark_of_digit {c : Char} (digit : isAsciiDigit c = true) : c ≠ '_' := by
  rintro rfl
  exact absurd digit (by decide)

theorem dropMarks_some_iff {before : Char} :
    Binary64.dropMarks (some before) chars = some kept ↔
      (before :: (chars ++ [' '])).IsChain Adjoins ∧ kept = unmarked chars := by
  -- The character in front is carried along: the reader looks back at it.
  induction chars generalizing before kept with
  | nil =>
      rw [List.nil_append, List.isChain_pair, Binary64.dropMarks]
      by_cases mark : before = '_'
      · subst mark
        rw [if_pos rfl, adjoins_mark_left]
        exact iff_of_false nofun fun parted => absurd parted.1 (by decide)
      · rw [if_neg (fun same => mark (Option.some.inj same)), Option.some.injEq, eq_comm]
        exact (and_iff_right (adjoins_plain mark (by decide))).symm
  | cons c rest inductionHypothesis =>
      rw [List.cons_append, List.isChain_cons_cons, and_assoc, Binary64.dropMarks]
      by_cases mark : c = '_'
      · subst mark
        rw [if_pos rfl, Option.any_some, adjoins_mark_right, unmarked_mark]
        by_cases digit : isAsciiDigit before = true
        · rw [if_pos digit, inductionHypothesis]
          exact (and_iff_right digit).symm
        · rw [if_neg digit]
          exact iff_of_false nofun fun parted => digit parted.1
      · rw [if_neg mark, unmarked_cons mark]
        by_cases beside : before = '_' ∧ isAsciiDigit c = false
        · obtain ⟨rfl, noDigit⟩ := beside
          rw [adjoins_mark_left, noDigit]
          exact iff_of_false nofun fun parted => Bool.false_ne_true parted.1
        · have adjoins : Adjoins before c := by
            refine ⟨fun same => ?_, fun same => absurd same mark⟩
            exact Bool.of_not_eq_false fun noDigit => beside ⟨same, noDigit⟩
          have goesOn : ¬ (decide (some before = some '_') && !isAsciiDigit c) = true := by
            simpa using beside
          rw [if_neg goesOn, Option.map_eq_some_iff, and_iff_right adjoins]
          constructor
          · rintro ⟨others, dropped, rfl⟩
            obtain ⟨parted, rfl⟩ := inductionHypothesis.mp dropped
            exact ⟨parted, rfl⟩
          · rintro ⟨parted, rfl⟩
            exact ⟨_, inductionHypothesis.mpr ⟨parted, rfl⟩, rfl⟩

theorem dropMarks_none (chars : List Char) :
    Binary64.dropMarks none chars = Binary64.dropMarks (some ' ') chars := by
  cases chars with
  | nil => rfl
  | cons c rest => rfl

theorem dropMarks_none_iff :
    Binary64.dropMarks none chars = some kept ↔ MarksParted chars ∧ kept = unmarked chars := by
  rw [dropMarks_none]
  exact dropMarks_some_iff

/-! ## Digits -/

/-- What follows digits starts with neither a digit nor a low line. -/
def EndsDigits (rest : List Char) : Prop :=
  ∀ c ∈ rest.head?, isAsciiDigit c = false ∧ c ≠ '_'

/-- Digits and low lines that may stand behind others, or where a digit has to come next: what
comes before them is a digit then, or a low line. -/
structure Continues (needsDigit : Bool) (written : List Char) : Prop where
  parted : ((if needsDigit then '_' else '0') :: (written ++ [' '])).IsChain Adjoins
  plain : ∀ c ∈ written, isAsciiDigit c = true ∨ c = '_'

theorem continues_nil_iff {needsDigit : Bool} : Continues needsDigit [] ↔ needsDigit = false := by
  cases needsDigit with
  | true =>
      refine iff_of_false (fun continues => ?_) nofun
      exact absurd (adjoins_mark_left.mp (List.isChain_pair.mp continues.parted)) (by decide)
  | false =>
      have free : Adjoins '0' ' ' := adjoins_plain (by decide) (by decide)
      exact iff_of_true ⟨List.isChain_pair.mpr free, nofun⟩ rfl

theorem isChain_digit_iff {c : Char} (digit : isAsciiDigit c = true) :
    (c :: chars).IsChain Adjoins ↔ ('0' :: chars).IsChain Adjoins := by
  cases chars with
  | nil => exact iff_of_true (List.isChain_singleton _) (List.isChain_singleton _)
  | cons next rest =>
      have same : Adjoins c next ↔ Adjoins '0' next := by
        by_cases mark : next = '_'
        · subst mark
          rw [adjoins_mark_right, adjoins_mark_right, digit]
          decide
        · exact iff_of_true (adjoins_plain (ne_mark_of_digit digit) mark)
            (adjoins_plain (by decide) mark)
      rw [List.isChain_cons_cons, List.isChain_cons_cons, same]

theorem continues_digit_iff
    {needsDigit : Bool} {c : Char} {others : List Char} (digit : isAsciiDigit c = true) :
    Continues needsDigit (c :: others) ↔ Continues false others := by
  have first : Adjoins (if needsDigit then '_' else '0') c := by
    cases needsDigit with
    | true => exact adjoins_mark_left.mpr digit
    | false => exact adjoins_plain (by decide) (ne_mark_of_digit digit)
  constructor
  · rintro ⟨parted, plain⟩
    exact ⟨(isChain_digit_iff digit).mp parted.tail, (List.forall_mem_cons.mp plain).2⟩
  · rintro ⟨parted, plain⟩
    exact ⟨List.isChain_cons_cons.mpr ⟨first, (isChain_digit_iff digit).mpr parted⟩,
      List.forall_mem_cons.mpr ⟨.inl digit, plain⟩⟩

theorem continues_mark_iff {needsDigit : Bool} {others : List Char} :
    Continues needsDigit ('_' :: others) ↔ needsDigit = false ∧ Continues true others := by
  constructor
  · rintro ⟨parted, plain⟩
    rw [List.cons_append, List.isChain_cons_cons, adjoins_mark_right] at parted
    refine ⟨?_, parted.2, (List.forall_mem_cons.mp plain).2⟩
    cases needsDigit with
    | true => exact absurd parted.1 (by decide)
    | false => rfl
  · rintro ⟨rfl, parted, plain⟩
    exact ⟨List.isChain_cons_cons.mpr ⟨adjoins_mark_right.mpr rfl, parted⟩,
      List.forall_mem_cons.mpr ⟨.inr rfl, plain⟩⟩

theorem Continues.exists_digit {written : List Char} (continues : Continues true written) :
    ∃ c others, written = c :: others ∧ isAsciiDigit c = true := by
  cases written with
  | nil => cases continues_nil_iff.mp continues
  | cons c others =>
      have parted := continues.parted
      rw [List.cons_append, List.isChain_cons_cons] at parted
      exact ⟨c, others, rfl, adjoins_mark_left.mp parted.1⟩

theorem exists_append_eq_cons_iff {c : Char} {more : List Char} {taken : List Char → Prop} :
    (∃ written, c :: more = written ++ rest ∧ taken written) ↔
      (rest = c :: more ∧ taken []) ∨ ∃ others, more = others ++ rest ∧ taken (c :: others) := by
  constructor
  · rintro ⟨written, parts, holds⟩
    cases written with
    | nil => exact .inl ⟨parts.symm, holds⟩
    | cons first others =>
        cases parts
        exact .inr ⟨others, rfl, holds⟩
  · rintro (⟨rfl, holds⟩ | ⟨others, rfl, holds⟩)
    · exact ⟨[], rfl, holds⟩
    · exact ⟨c :: others, rfl, holds⟩

/-- What is split off are digits with single marks between them, up to where they end. -/
theorem splitDigits_iff {needsDigit : Bool} {taken : List Char} :
    splitDigits needsDigit taken chars = some (digits, rest) ↔
      ∃ written, chars = written ++ rest ∧ Continues needsDigit written ∧
        digits = taken.reverse ++ unmarked written ∧ EndsDigits rest := by
  -- Every way on of the reader is a way in which the written part goes on or ends.
  induction chars generalizing needsDigit taken with
  | nil =>
      rw [splitDigits]
      constructor
      · intro split
        cases needsDigit with
        | true => cases split
        | false =>
            cases split
            exact ⟨[], rfl, continues_nil_iff.mpr rfl, (List.append_nil _).symm, nofun⟩
      · rintro ⟨written, parts, continues, rfl, -⟩
        obtain ⟨rfl, rfl⟩ := List.append_eq_nil_iff.mp parts.symm
        rw [continues_nil_iff.mp continues, if_neg Bool.false_ne_true]
        exact congrArg (fun taken => some (taken, [])) (List.append_nil _).symm
  | cons c more inductionHypothesis =>
      rw [splitDigits, exists_append_eq_cons_iff]
      by_cases digit : isAsciiDigit c = true
      · rw [if_pos digit, inductionHypothesis, or_iff_right]
        · simp only [continues_digit_iff digit, unmarked_cons (ne_mark_of_digit digit),
            List.reverse_cons, List.append_assoc, List.singleton_append]
        · rintro ⟨rfl, -, -, ends⟩
          exact absurd digit (Bool.eq_false_iff.mp (ends c rfl).1)
      · rw [if_neg digit]
        by_cases mark : c = '_'
        · subst mark
          rw [if_pos rfl, or_iff_right]
          · cases needsDigit with
            | true => simp [continues_mark_iff]
            | false => simp [continues_mark_iff, inductionHypothesis, unmarked_mark]
          · rintro ⟨rfl, -, -, ends⟩
            exact absurd rfl (ends '_' rfl).2
        · have ends : EndsDigits (c :: more) := by
            rintro first ⟨⟩
            exact ⟨Bool.eq_false_iff.mpr digit, mark⟩
          rw [if_neg mark, or_iff_left]
          · cases needsDigit with
            | true => simp [continues_nil_iff]
            | false =>
                simp only [Bool.false_eq_true, if_false, Option.some.injEq, Prod.mk.injEq,
                  continues_nil_iff, true_and]
                constructor
                · rintro ⟨rfl, rfl⟩
                  exact ⟨rfl, (List.append_nil _).symm, ends⟩
                · rintro ⟨rfl, rfl, -⟩
                  exact ⟨(List.append_nil _).symm, rfl⟩
          · rintro ⟨others, -, continues, -⟩
            rcases continues.plain c List.mem_cons_self with isDigit | isMark
            · exact digit isDigit
            · exact mark isMark

theorem continues_true_iff {written : List Char} :
    Continues true written ↔
      written ≠ [] ∧ (∀ c ∈ written, isAsciiDigit c = true ∨ c = '_') ∧ MarksParted written := by
  cases written with
  | nil => exact iff_of_false (fun continues => nomatch continues_nil_iff.mp continues) (by simp)
  | cons c others =>
      by_cases digit : isAsciiDigit c = true
      · have left : Adjoins '_' c := adjoins_mark_left.mpr digit
        have right : Adjoins ' ' c := adjoins_plain (by decide) (ne_mark_of_digit digit)
        constructor
        · rintro ⟨parted, plain⟩
          exact ⟨List.cons_ne_nil _ _, plain, List.isChain_cons_cons.mpr ⟨right, parted.tail⟩⟩
        · rintro ⟨-, plain, parted⟩
          exact ⟨List.isChain_cons_cons.mpr ⟨left, parted.tail⟩, plain⟩
      · refine iff_of_false ?_ ?_
        · intro continues
          obtain ⟨_, _, ⟨⟩, isDigit⟩ := continues.exists_digit
          exact digit isDigit
        · rintro ⟨-, plain, parted⟩
          rcases plain c List.mem_cons_self with isDigit | rfl
          · exact digit isDigit
          · exact absurd (adjoins_mark_right.mp (List.isChain_cons_cons.mp parted).1) (by decide)

/-! ## Signs and blanks -/

/-- The sign in front of a number, if there is one; `true` is a minus. -/
def signChars : Option Bool → List Char
  | none => []
  | some false => ['+']
  | some true => ['-']

theorem exists_signChars (chars : List Char) :
    ∃ sign : Option Bool, chars = signChars sign ++ (splitSign chars).2 ∧
      (splitSign chars).1 = sign.getD false := by
  unfold splitSign
  split
  · exact ⟨some true, rfl, rfl⟩
  · exact ⟨some false, rfl, rfl⟩
  · exact ⟨none, rfl, rfl⟩

theorem splitSign_signChars
    (sign : Option Bool) {body : List Char} (unsigned : ∀ c ∈ body.head?, c ≠ '-' ∧ c ≠ '+') :
    splitSign (signChars sign ++ body) = (sign.getD false, body) := by
  cases sign with
  | some negative => cases negative <;> rfl
  | none =>
      cases body with
      | nil => rfl
      | cons c rest =>
          obtain ⟨noMinus, noPlus⟩ := unsigned c rfl
          simp [signChars, splitSign, noMinus, noPlus]

theorem unsigned_of_large {word : List Char} (large : ∀ c ∈ word.head?, 45 < c.toNat) :
    ∀ c ∈ word.head?, c ≠ '-' ∧ c ≠ '+' := by
  intro c first
  have bound := large c first
  refine ⟨?_, ?_⟩ <;> rintro rfl <;> exact absurd bound (by decide)

theorem isAsciiDigit_iff {c : Char} : isAsciiDigit c = true ↔ 48 ≤ c.toNat ∧ c.toNat ≤ 57 := by
  rw [isAsciiDigit, Bool.and_eq_true, decide_eq_true_eq, decide_eq_true_eq]
  rfl

theorem toNat_le_of_isNumberBlank {c : Char} (blank : isNumberBlank c = true) : c.toNat ≤ 32 := by
  rw [isNumberBlank, Bool.or_eq_true, Bool.and_eq_true, decide_eq_true_eq, decide_eq_true_eq,
    beq_iff_eq] at blank
  rcases blank with ⟨-, small⟩ | rfl
  · omega
  · decide

theorem not_isNumberBlank_of_lt {c : Char} (large : 32 < c.toNat) : isNumberBlank c = false :=
  Bool.eq_false_iff.mpr fun blank => Nat.not_le.mpr large (toNat_le_of_isNumberBlank blank)

/-- Blanks in front are dropped up to the sign. -/
theorem dropWhile_signChars
    {before body : List Char} (blank : ∀ c ∈ before, isNumberBlank c = true) (sign : Option Bool)
    (solid : ∀ c ∈ body.head?, isNumberBlank c = false) :
    (before ++ (signChars sign ++ body)).dropWhile isNumberBlank = signChars sign ++ body := by
  rw [List.dropWhile_append_of_pos blank]
  cases sign with
  | some negative => cases negative <;> rfl
  | none =>
      cases body with
      | nil => rfl
      | cons c rest => exact trimStart_of_head rest (solid c rfl)

theorem endsDigits_of_blank {after : List Char} (blank : ∀ c ∈ after, isNumberBlank c = true) :
    EndsDigits after := by
  intro c first
  have small := toNat_le_of_isNumberBlank (blank c (List.mem_of_mem_head? first))
  refine ⟨Bool.eq_false_iff.mpr fun digit => ?_, ?_⟩
  · have large := (isAsciiDigit_iff.mp digit).1
    omega
  · rintro rfl
    exact absurd small (by decide)

/-! ## Whole numbers -/

/-- A text that writes a whole number: digits with low lines between them, a sign in front and
blanks at both ends.  There are no more digits than are read. -/
inductive WritesWhole : List Char → Int → Prop
  | intro {before written after : List Char} (sign : Option Bool)
      (blankBefore : ∀ c ∈ before, isNumberBlank c = true)
      (blankAfter : ∀ c ∈ after, isNumberBlank c = true)
      (some : written ≠ []) (plain : ∀ c ∈ written, isAsciiDigit c = true ∨ c = '_')
      (parted : MarksParted written) (short : (unmarked written).length ≤ digitLimit) :
      WritesWhole (before ++ (signChars sign ++ (written ++ after)))
        (signedValue (sign.getD false) (unmarked written))

/-- A text is read as the whole number that it writes. -/
theorem readInteger_eq_ok_iff {source : String} {n : Int} :
    readInteger source = .ok n ↔ WritesWhole (plainChars source.toList) n := by
  unfold readInteger
  generalize plainChars source.toList = chars
  constructor
  · intro given
    obtain ⟨sign, signed, negative⟩ := exists_signChars (chars.dropWhile isNumberBlank)
    dsimp only at given
    rw [negative] at given
    split at given
    · cases given
    · rename_i digits rest split
      split_ifs at given with long blank
      cases given
      obtain ⟨written, parts, continues, rfl, -⟩ := splitDigits_iff.mp split
      obtain ⟨some, plain, parted⟩ := continues_true_iff.mp continues
      rw [parts] at signed
      rw [← List.takeWhile_append_dropWhile (p := isNumberBlank) (l := chars), signed]
      exact .intro sign (fun c member => List.mem_takeWhile_imp member)
        (List.all_eq_true.mp blank) some plain parted (Nat.le_of_not_lt long)
  · rintro ⟨sign, blankBefore, blankAfter, some, plain, parted, short⟩
    rename_i before written after
    have continues : Continues true written := continues_true_iff.mpr ⟨some, plain, parted⟩
    have split : splitDigits true [] (written ++ after) = Option.some (unmarked written, after) :=
      splitDigits_iff.mpr ⟨written, rfl, continues, rfl, endsDigits_of_blank blankAfter⟩
    have large : ∀ c ∈ (written ++ after).head?, 45 < c.toNat := by
      obtain ⟨digit, others, rfl, isDigit⟩ := continues.exists_digit
      rintro c ⟨⟩
      have bound := (isAsciiDigit_iff.mp isDigit).1
      omega
    have solid : ∀ c ∈ (written ++ after).head?, isNumberBlank c = false := fun c first =>
      not_isNumberBlank_of_lt (Nat.lt_trans (by decide) (large c first))
    rw [dropWhile_signChars blankBefore sign solid,
      splitSign_signChars sign (unsigned_of_large large)]
    dsimp only
    rw [split]
    dsimp only
    rw [if_neg (Nat.not_lt.mpr short), if_pos (List.all_eq_true.mpr blankAfter)]

/-! ## Binary numbers -/

namespace Binary64

variable {negative : Bool} {x : Binary64} {power : Int}

/-- The power of ten behind the digits, if there is one. -/
inductive WritesPower : List Char → Int → Prop
  | none : WritesPower [] 0
  | power {mark : Char} {digits : List Char} (sign : Option Bool) (marks : mark = 'e' ∨ mark = 'E')
      (some : digits ≠ []) (allDigits : ∀ c ∈ digits, isAsciiDigit c = true) :
      WritesPower (mark :: (signChars sign ++ digits)) (signedValue (sign.getD false) digits)

/-- Digits with a point among them or none, and a power of ten or none. -/
inductive WritesNumeral (negative : Bool) : List Char → Binary64 → Prop
  | intro {whole point fraction tail : List Char} {power : Int}
      (wholeDigits : ∀ c ∈ whole, isAsciiDigit c = true)
      (pointed : point = [] ∧ fraction = [] ∨ point = '.' :: fraction)
      (fractionDigits : ∀ c ∈ fraction, isAsciiDigit c = true)
      (some : whole ++ fraction ≠ []) (powered : WritesPower tail power) :
      WritesNumeral negative (whole ++ (point ++ tail))
        (ofDecimal negative (decimalValue (whole ++ fraction)) (power - fraction.length))

/-- A numeral or the name of what is no finite number, with a sign or without one. -/
inductive WritesReal : List Char → Binary64 → Prop
  | infinite {word : List Char} (sign : Option Bool)
      (named : String.ofList (word.map Char.toLower) = "inf" ∨
        String.ofList (word.map Char.toLower) = "infinity") :
      WritesReal (signChars sign ++ word) (.infinite (sign.getD false))
  | notANumber {word : List Char} (sign : Option Bool)
      (named : String.ofList (word.map Char.toLower) = "nan") :
      WritesReal (signChars sign ++ word) .notANumber
  | numeral {body : List Char} {x : Binary64} (sign : Option Bool)
      (numeral : WritesNumeral (sign.getD false) body x) :
      WritesReal (signChars sign ++ body) x

/-- A text that writes a binary number: a numeral or a name with low lines between digits, and
blanks at both ends. -/
inductive Writes : List Char → Binary64 → Prop
  | intro {before body after : List Char} {x : Binary64}
      (blankBefore : ∀ c ∈ before, isNumberBlank c = true)
      (blankAfter : ∀ c ∈ after, isNumberBlank c = true)
      (parted : MarksParted body) (written : WritesReal (unmarked body) x) :
      Writes (before ++ (body ++ after)) x

theorem head?_unsigned
    {digits : List Char} (some : digits ≠ [])
    (allDigits : ∀ c ∈ digits, isAsciiDigit c = true) : ∀ c ∈ digits.head?, c ≠ '-' ∧ c ≠ '+' := by
  obtain ⟨digit, others, rfl⟩ := List.exists_cons_of_ne_nil some
  refine unsigned_of_large ?_
  rintro c ⟨⟩
  have large := (isAsciiDigit_iff.mp (allDigits digit List.mem_cons_self)).1
  omega

theorem readPower_iff :
    readPower chars = some power ↔
      ∃ sign digits, chars = signChars sign ++ digits ∧ digits ≠ [] ∧
        (∀ c ∈ digits, isAsciiDigit c = true) ∧ power = signedValue (sign.getD false) digits := by
  unfold readPower
  constructor
  · intro given
    obtain ⟨sign, signed, negative⟩ := exists_signChars chars
    dsimp only at given
    rw [negative] at given
    split_ifs at given with refused
    cases given
    rw [Bool.or_eq_true, Bool.not_eq_true', not_or, List.isEmpty_iff, Bool.not_eq_false,
      List.all_eq_true] at refused
    exact ⟨sign, _, signed, refused.1, refused.2, rfl⟩
  · rintro ⟨sign, digits, rfl, some, allDigits, rfl⟩
    have unsigned := head?_unsigned some allDigits
    have accepted : ¬ (digits.isEmpty || !digits.all isAsciiDigit) = true := by
      simp [some, List.all_eq_true.mpr allDigits]
    rw [splitSign_signChars sign unsigned]
    exact if_neg accepted

theorem writesPower_cons_iff {mark : Char} {more : List Char} :
    WritesPower (mark :: more) power ↔
      (mark = 'e' ∨ mark = 'E') ∧ readPower more = some power := by
  rw [readPower_iff]
  constructor
  · intro written
    cases written with
    | power sign marks some allDigits => exact ⟨marks, sign, _, rfl, some, allDigits, rfl⟩
  · rintro ⟨marks, sign, digits, rfl, some, allDigits, rfl⟩
    exact .power sign marks some allDigits

theorem tailPower_iff {tail : List Char} :
    (match tail with
      | [] => some 0
      | c :: more => if c = 'e' || c = 'E' then readPower more else none) = some power ↔
      WritesPower tail power := by
  cases tail with
  | nil =>
      refine ⟨fun given => ?_, fun written => ?_⟩
      · cases given
        exact .none
      · cases written
        rfl
  | cons mark more =>
      have told : (mark = 'e' || mark = 'E') = true ↔ mark = 'e' ∨ mark = 'E' := by
        rw [Bool.or_eq_true, decide_eq_true_eq, decide_eq_true_eq]
      rw [writesPower_cons_iff, ← told]
      dsimp only
      split_ifs with marks
      · exact (and_iff_right marks).symm
      · exact iff_of_false nofun fun both => marks both.1

theorem WritesPower.ends {tail : List Char} (written : WritesPower tail power) :
    ∀ c ∈ tail.head?, isAsciiDigit c = false ∧ c ≠ '.' := by
  cases written with
  | none => exact nofun
  | power sign marks some allDigits =>
      rintro c ⟨⟩
      rcases marks with rfl | rfl <;> decide

variable (negative) in
/-- What the reader makes of the digits in front of the point and behind it and of the rest. -/
theorem readParts_iff {whole fraction tail : List Char} :
    (if whole.isEmpty && fraction.isEmpty then none
      else Option.map (fun power : Int =>
          ofDecimal negative (decimalValue (whole ++ fraction)) (power - fraction.length))
        (match tail with
          | [] => some 0
          | c :: more => if c = 'e' || c = 'E' then readPower more else none)) = some x ↔
      whole ++ fraction ≠ [] ∧ ∃ power, WritesPower tail power ∧
        ofDecimal negative (decimalValue (whole ++ fraction)) (power - fraction.length) = x := by
  have told : (whole.isEmpty && fraction.isEmpty) = true ↔ whole ++ fraction = [] := by
    rw [Bool.and_eq_true, List.isEmpty_iff, List.isEmpty_iff, List.append_eq_nil_iff]
  rw [ne_eq, ← told]
  split_ifs with nothing
  · exact iff_of_false nofun fun both => both.1 nothing
  · rw [Option.map_eq_some_iff, and_iff_right nothing]
    simp only [tailPower_iff]

/-- Digits are read as the number that they write. -/
theorem readNumeral_iff :
    readNumeral negative chars = some x ↔ WritesNumeral negative chars x := by
  unfold readNumeral
  constructor
  · intro given
    have wholeDigits : ∀ c ∈ chars.takeWhile isAsciiDigit, isAsciiDigit c = true :=
      fun c member => List.mem_takeWhile_imp member
    have parts : chars.takeWhile isAsciiDigit ++ chars.dropWhile isAsciiDigit = chars :=
      List.takeWhile_append_dropWhile
    dsimp only at given
    generalize chars.takeWhile isAsciiDigit = whole at given wholeDigits parts
    generalize chars.dropWhile isAsciiDigit = after at given parts
    subst parts
    split at given
    · rename_i more
      obtain ⟨some, power, powered, rfl⟩ := (readParts_iff negative).mp given
      have fractionDigits : ∀ c ∈ more.takeWhile isAsciiDigit, isAsciiDigit c = true :=
        fun c member => List.mem_takeWhile_imp member
      have parts : '.' :: more =
          ('.' :: more.takeWhile isAsciiDigit) ++ more.dropWhile isAsciiDigit := by
        rw [List.cons_append, List.takeWhile_append_dropWhile]
      rw [parts]
      exact .intro wholeDigits (.inr rfl) fractionDigits some powered
    · obtain ⟨some, power, powered, rfl⟩ := (readParts_iff negative).mp given
      exact .intro wholeDigits (.inl ⟨rfl, rfl⟩) nofun some powered
  · rintro ⟨wholeDigits, pointed, fractionDigits, some, powered⟩
    rename_i whole point fraction tail power
    have read := (readParts_iff negative).mpr ⟨some, power, powered, rfl⟩
    have ends : ∀ c ∈ (point ++ tail).head?, isAsciiDigit c = false := by
      rcases pointed with ⟨rfl, -⟩ | rfl
      · exact fun c first => (powered.ends c first).1
      · rintro c ⟨⟩
        rfl
    obtain ⟨wholeTaken, wholeDropped⟩ := takeWhile_digits_append wholeDigits ends
    dsimp only
    rw [wholeTaken, wholeDropped]
    rcases pointed with ⟨rfl, rfl⟩ | rfl
    · rw [List.nil_append]
      split
      · exact absurd rfl (powered.ends '.' rfl).2
      · exact read
    · obtain ⟨fractionTaken, fractionDropped⟩ :=
        takeWhile_digits_append fractionDigits fun c first => (powered.ends c first).1
      simp only [List.cons_append, fractionTaken, fractionDropped]
      exact read

/-! ### Names of what is no finite number -/

theorem toLower_of_small {c : Char} (small : c.toNat ≤ 57) : c.toLower = c := by
  have noCapital : ¬ (c.val ≥ 'A'.val ∧ c.val ≤ 'Z'.val) := by
    rintro ⟨capital, -⟩
    have large : 'A'.toNat ≤ c.toNat := UInt32.le_iff_toNat_le.mp capital
    exact absurd (Nat.le_trans large small) (by decide)
  exact dif_neg noCapital

/-- A text that is named with letters is made of characters as large as letters. -/
theorem large_of_named
    {word : List Char} {name : String} (named : String.ofList (word.map Char.toLower) = name)
    (letters : ∀ c ∈ name.toList, 57 < c.toNat) : ∀ c ∈ word, 57 < c.toNat := by
  intro c member
  by_contra small
  have lowered : c.toLower ∈ name.toList := by
    rw [← named, String.toList_ofList]
    exact List.mem_map_of_mem member
  rw [toLower_of_small (Nat.le_of_not_lt small)] at lowered
  exact small (letters c lowered)

theorem letters_inf : ∀ c ∈ "inf".toList, 57 < c.toNat := by simp

theorem letters_infinity : ∀ c ∈ "infinity".toList, 57 < c.toNat := by simp

theorem letters_nan : ∀ c ∈ "nan".toList, 57 < c.toNat := by simp

theorem WritesNumeral.exists_head (numeral : WritesNumeral negative chars x) :
    ∃ c rest, chars = c :: rest ∧ 46 ≤ c.toNat ∧ c.toNat ≤ 57 := by
  obtain ⟨wholeDigits, pointed, -, some, -⟩ := numeral
  rename_i whole point fraction tail power
  cases whole with
  | cons c others =>
      have bounds := isAsciiDigit_iff.mp (wholeDigits c List.mem_cons_self)
      exact ⟨c, _, rfl, by omega, bounds.2⟩
  | nil =>
      rcases pointed with ⟨rfl, rfl⟩ | rfl
      · exact absurd rfl some
      · exact ⟨'.', _, rfl, by decide, by decide⟩

theorem WritesNumeral.not_named
    (numeral : WritesNumeral negative chars x) {name : String}
    (letters : ∀ c ∈ name.toList, 57 < c.toNat) :
    String.ofList (chars.map Char.toLower) ≠ name := by
  intro named
  obtain ⟨c, rest, rfl, -, small⟩ := numeral.exists_head
  have large := large_of_named named letters c List.mem_cons_self
  omega

theorem unsigned_of_named
    {word : List Char} {name : String} (named : String.ofList (word.map Char.toLower) = name)
    (letters : ∀ c ∈ name.toList, 57 < c.toNat) : ∀ c ∈ word.head?, c ≠ '-' ∧ c ≠ '+' := by
  refine unsigned_of_large fun c first => ?_
  have large := large_of_named named letters c (List.mem_of_mem_head? first)
  omega

theorem readWord_iff : readWord chars = some x ↔ WritesReal chars x := by
  unfold readWord
  constructor
  · intro given
    obtain ⟨sign, signed, negative⟩ := exists_signChars chars
    dsimp only at given
    rw [negative] at given
    rw [signed]
    split_ifs at given with infinite notANumber
    · cases given
      rw [Bool.or_eq_true, decide_eq_true_eq, decide_eq_true_eq] at infinite
      exact .infinite sign infinite
    · cases given
      exact .notANumber sign notANumber
    · exact .numeral sign (readNumeral_iff.mp given)
  · intro written
    cases written with
    | infinite sign named =>
        have unsigned := named.elim (unsigned_of_named · letters_inf)
          (unsigned_of_named · letters_infinity)
        rw [splitSign_signChars sign unsigned]
        refine if_pos ?_
        rwa [Bool.or_eq_true, decide_eq_true_eq, decide_eq_true_eq]
    | notANumber sign named =>
        rw [splitSign_signChars sign (unsigned_of_named named letters_nan)]
        dsimp only
        rw [named]
        rfl
    | @numeral body _ sign numeral =>
        have unsigned : ∀ c ∈ body.head?, c ≠ '-' ∧ c ≠ '+' := by
          obtain ⟨first, rest, rfl, large, -⟩ := numeral.exists_head
          refine unsigned_of_large ?_
          rintro c ⟨⟩
          omega
        rw [splitSign_signChars sign unsigned]
        dsimp only
        rw [if_neg, if_neg (numeral.not_named letters_nan), readNumeral_iff.mpr numeral]
        rw [Bool.or_eq_true, decide_eq_true_eq, decide_eq_true_eq, not_or]
        exact ⟨numeral.not_named letters_inf, numeral.not_named letters_infinity⟩

/-! ### Whole texts -/

theorem large_signChars (sign : Option Bool) : ∀ c ∈ signChars sign, 32 < c.toNat := by
  rcases sign with _ | _ | _ <;> simp [signChars]

theorem large_of_digits {digits : List Char} (allDigits : ∀ c ∈ digits, isAsciiDigit c = true) :
    ∀ c ∈ digits, 32 < c.toNat := by
  intro c member
  have bound := (isAsciiDigit_iff.mp (allDigits c member)).1
  omega

theorem WritesPower.large {tail : List Char} (written : WritesPower tail power) :
    ∀ c ∈ tail, 32 < c.toNat := by
  cases written with
  | none => exact nofun
  | power sign marks some allDigits =>
      rw [List.forall_mem_cons, List.forall_mem_append]
      exact ⟨by rcases marks with rfl | rfl <;> decide, large_signChars sign,
        large_of_digits allDigits⟩

theorem WritesNumeral.large (numeral : WritesNumeral negative chars x) :
    ∀ c ∈ chars, 32 < c.toNat := by
  obtain ⟨wholeDigits, pointed, fractionDigits, -, powered⟩ := numeral
  rw [List.forall_mem_append, List.forall_mem_append]
  refine ⟨large_of_digits wholeDigits, ?_, powered.large⟩
  rcases pointed with ⟨rfl, -⟩ | rfl
  · exact nofun
  · exact List.forall_mem_cons.mpr ⟨by decide, large_of_digits fractionDigits⟩

theorem WritesReal.large (written : WritesReal chars x) : ∀ c ∈ chars, 32 < c.toNat := by
  cases written with
  | infinite sign named =>
      have large := named.elim (large_of_named · letters_inf) (large_of_named · letters_infinity)
      exact List.forall_mem_append.mpr ⟨large_signChars sign, fun c member =>
        Nat.lt_trans (by decide) (large c member)⟩
  | notANumber sign named =>
      exact List.forall_mem_append.mpr ⟨large_signChars sign, fun c member =>
        Nat.lt_trans (by decide) (large_of_named named letters_nan c member)⟩
  | numeral sign numeral =>
      exact List.forall_mem_append.mpr ⟨large_signChars sign, numeral.large⟩

theorem trimEnd_trimStart_solid
    {drop : Char → Bool} {before body after : List Char} (dropBefore : ∀ c ∈ before, drop c = true)
    (dropAfter : ∀ c ∈ after, drop c = true) (solid : ∀ c ∈ body, drop c = false) :
    trimEnd drop (trimStart drop (before ++ (body ++ after))) = body := by
  have nothing : trimEnd drop after = [] := List.rdropWhile_eq_nil_iff.mpr dropAfter
  rw [trimStart, List.dropWhile_append_of_pos dropBefore]
  cases body with
  | nil =>
      have none : trimStart drop after = [] := List.dropWhile_eq_nil_iff.mpr dropAfter
      exact congrArg (trimEnd drop) none
  | cons c rest =>
      have ends : (c :: rest).rdropWhile drop = c :: rest := by
        rw [List.rdropWhile_eq_self_iff]
        exact fun some => Bool.eq_false_iff.mp (solid _ (List.getLast_mem some))
      have first : trimStart drop (c :: (rest ++ after)) = c :: (rest ++ after) :=
        trimStart_of_head _ (solid c List.mem_cons_self)
      change trimEnd drop (trimStart drop (c :: (rest ++ after))) = _
      rw [first, ← List.cons_append, trimEnd_append_eq, nothing]
      exact ends

/-- A text is read as the binary number that it writes. -/
theorem read?_eq_some_iff {source : String} :
    read? source = some x ↔ Writes (plainChars source.toList) x := by
  unfold read?
  generalize plainChars source.toList = chars
  rw [Option.bind_eq_some_iff]
  constructor
  · rintro ⟨kept, dropped, read⟩
    obtain ⟨parted, rfl⟩ := dropMarks_none_iff.mp dropped
    rw [← trimStart_append isNumberBlank chars,
      ← trimEnd_append isNumberBlank (trimStart isNumberBlank chars)]
    exact .intro (fun c member => List.mem_takeWhile_imp member)
      (fun c member => List.mem_rtakeWhile_imp member) parted (readWord_iff.mp read)
  · rintro ⟨blankBefore, blankAfter, parted, written⟩
    rename_i before body after
    -- No blank stands in the body, so trimming stops at its ends.
    have solid : ∀ c ∈ body, isNumberBlank c = false := by
      intro c member
      by_cases mark : c = '_'
      · rw [mark]
        rfl
      · have kept : c ∈ unmarked body := List.mem_filter.mpr ⟨member, decide_eq_true mark⟩
        exact not_isNumberBlank_of_lt (written.large c kept)
    rw [trimEnd_trimStart_solid blankBefore blankAfter solid]
    exact ⟨_, dropMarks_none_iff.mpr ⟨parted, rfl⟩, readWord_iff.mpr written⟩

end Binary64

end QuoteDesk.Number
