import QuoteDesk.Json.Writer
import QuoteDesk.Proofs.Json.Reading
import QuoteDesk.Proofs.Number.Numerals

/-!
# Texts and numbers survive JSON

Every character of a text is written so that it is read back, also one that needs two
escapes.  In a text without half pairs an escape is read as the character that it means.  A
number ends where something follows that is neither a digit nor a part of a number, so it is
read back from in front of it.
-/

namespace QuoteDesk.Json

open Number Text

/-! ## Escapes -/

theorem hexValue?_digitChar {digit : Nat} (small : digit < 16) :
    hexValue? (Nat.digitChar digit) = some digit := by
  have all : ∀ digit : Fin 16, hexValue? (Nat.digitChar digit) = some digit.val := by decide
  exact all ⟨digit, small⟩

theorem hexWord?_concat (digits : List Char) (digit : Char) :
    hexWord? (digits ++ [digit]) =
      (hexWord? digits).bind fun value => (hexValue? digit).map (16 * value + ·) := by
  rw [hexWord?, List.foldl_append]
  change (hexWord? digits).bind _ = _
  cases hexWord? digits with
  | none => rfl
  | some value =>
      change (hexValue? digit).bind _ = _
      cases hexValue? digit <;> rfl

theorem hexWord?_toDigits (n : Nat) : hexWord? (Nat.toDigits 16 n) = some n := by
  induction n using Nat.strongRecOn with
  | _ n inductionHypothesis =>
      by_cases small : n < 16
      · rw [Nat.toDigits_of_lt_base small]
        have value := hexWord?_concat [] (Nat.digitChar n)
        rw [hexValue?_digitChar small] at value
        exact value.trans (by simp [hexWord?])
      · rw [Nat.toDigits_of_base_le (by decide) (Nat.le_of_not_lt small), hexWord?_concat,
          inductionHypothesis (n / 16) (by omega), hexValue?_digitChar (Nat.mod_lt n (by decide))]
        simp only [Option.bind_some, Option.map_some]
        congr 1
        omega

theorem hexWord?_zeros_append (count : Nat) (digits : List Char) :
    hexWord? (List.replicate count '0' ++ digits) = hexWord? digits := by
  induction count with
  | zero => rfl
  | succ count inductionHypothesis => exact inductionHypothesis

theorem length_hexText {word : Nat} (small : word < 0x10000) : (hexText 4 word).length = 4 := by
  have short : (Nat.toDigits 16 word).length ≤ 4 :=
    (Nat.length_toDigits_le_iff (by decide) (by decide)).mpr small
  rw [hexText, List.length_append, List.length_replicate]
  omega

/-- A word is read back from its four digits. -/
theorem hexWord?_hexText (word : Nat) : hexWord? (hexText 4 word) = some word := by
  rw [hexText, hexWord?_zeros_append, hexWord?_toDigits]

theorem take_hexText {word : Nat} (small : word < 0x10000) (more : List Char) :
    (hexText 4 word ++ more).take 4 = hexText 4 word ∧
      (hexText 4 word ++ more).drop 4 = more :=
  ⟨List.take_left' (length_hexText small), List.drop_left' (length_hexText small)⟩

/-- The word of a character stands for this character. -/
theorem unitChar_toNat (c : Char) : unitChar c.toNat = c := by
  have valid : c.toNat < 0xD800 ∨ 0xDFFF < c.toNat ∧ c.toNat < 0x110000 := c.valid
  have noHalf : (decide (0xD800 ≤ c.toNat) && decide (c.toNat ≤ 0xDFFF)) = false := by
    rw [← Bool.decide_and, decide_eq_false_iff_not]
    omega
  rw [unitChar, noHalf, if_neg Bool.false_ne_true, Char.ofNat_toNat]

/-! ### Half pairs -/

/-- Whether a word is half a surrogate pair, which no character has. -/
def isHalf (word : Nat) : Bool :=
  0xD800 ≤ word && word ≤ 0xDFFF

/-- Whether what follows a backslash writes half a surrogate pair without the other half. -/
def writesHalf (rest : List Char) : Bool :=
  match readEscape 0 0 rest with
  | .ok (_, 5) => (hexWord? ((rest.drop 1).take 4)).any isHalf
  | _ => false

/-- Whether no escape of a text is half a surrogate pair.  `skip` characters belong to an escape
before. -/
def isWhole (skip : Nat) : List Char → Bool
  | [] => true
  | c :: rest =>
    if 0 < skip then isWhole (skip - 1) rest
    else if c = '\\' then
      match readEscape 0 0 rest with
      | .ok (_, size) => !writesHalf rest && isWhole size rest
      | .error _ => isWhole 0 rest
    else isWhole 0 rest

theorem hexValue?_lt {digit : Char} {value : Nat} (read : hexValue? digit = some value) :
    value < 16 := by
  unfold hexValue? isAsciiDigit at read
  simp only [Char.le_def, UInt32.le_iff_toNat_le, Bool.and_eq_true, decide_eq_true_eq] at read
  split at read
  · rename_i decimal
    cases read
    have : digit.toNat ≤ 57 := decimal.2
    change digit.toNat - 48 < 16
    omega
  · split at read
    · rename_i small
      cases read
      have : digit.toNat ≤ 102 := small.2
      change digit.toNat - 97 + 10 < 16
      omega
    · split at read
      · rename_i capital
        cases read
        have : digit.toNat ≤ 70 := capital.2
        change digit.toNat - 65 + 10 < 16
        omega
      · cases read

theorem hexWord?_lt {digits : List Char} {word : Nat} (read : hexWord? digits = some word) :
    word < 16 ^ digits.length := by
  induction digits using List.reverseRecOn generalizing word with
  | nil =>
      cases read
      exact Nat.one_pos
  | append_singleton digits digit inductionHypothesis =>
      rw [hexWord?_concat] at read
      obtain ⟨before, beforeRead, rest⟩ := Option.bind_eq_some_iff.mp read
      obtain ⟨value, valueRead, rfl⟩ := Option.map_eq_some_iff.mp rest
      have beforeLess := inductionHypothesis beforeRead
      have valueLess := hexValue?_lt valueRead
      rw [List.length_append, List.length_singleton, Nat.pow_succ]
      omega

theorem toNat_unitChar {word : Nat} (small : word < 0x10000) (whole : isHalf word = false) :
    (unitChar word).toNat = word := by
  unfold isHalf at whole
  rw [unitChar, whole, if_neg Bool.false_ne_true]
  rw [← Bool.decide_and, decide_eq_false_iff_not] at whole
  have valid : word.isValidChar := by
    rw [Nat.isValidChar]
    omega
  rw [Char.ofNat, dif_pos valid]
  rfl

/-- Where no half is written, an escape of one word is read as the character that has this word. -/
theorem hexWord?_of_readEscape
    {code : List Char} {meant : Char} (whole : writesHalf ('u' :: code) = false)
    (read : readEscape 0 0 ('u' :: code) = .ok (meant, 5)) :
    hexWord? (code.take 4) = some meant.toNat := by
  rw [writesHalf, read] at whole
  change (hexWord? (code.take 4)).any isHalf = false at whole
  simp only [readEscape] at read
  split at read
  · cases read
  · rename_i long
    have four : (code.take 4).length = 4 := List.length_take_of_le (by omega)
    cases first : hexWord? (code.take 4) with
    | none =>
        rw [first] at read
        cases read
    | some word =>
        rw [first] at read whole
        have small : word < 16 ^ 4 := four ▸ hexWord?_lt first
        have same : unitChar word = meant := by grind
        rw [← same, toNat_unitChar small whole]

/-! ### Reading -/

section Reading

variable {start index : Nat} {more : List Char}

theorem readEscape_word {word : Nat} (small : word < 0x10000) (some : more ≠ []) :
    readEscape start index ('u' :: (hexText 4 word ++ more)) =
      if 0xD800 ≤ word && word ≤ 0xDBFF && 6 < more.length && more.take 2 = ['\\', 'u'] then
        match hexWord? ((more.drop 2).take 4) with
        | none => .error (.problem .badCodeEscape (index + 7))
        | .some low =>
          if 0xDC00 ≤ low && low ≤ 0xDFFF then
            .ok (Char.ofNat (0x10000 + (word - 0xD800) * 0x400 + (low - 0xDC00)), 11)
          else .ok (unitChar word, 5)
      else .ok (unitChar word, 5) := by
  have long : ¬ (hexText 4 word ++ more).length < 5 := by
    have nonempty := List.length_pos_iff.mpr some
    rw [List.length_append, length_hexText small]
    omega
  obtain ⟨taken, behind⟩ := take_hexText small more
  cases second : hexWord? ((more.drop 2).take 4) <;>
    simp only [readEscape, if_neg long, taken, behind, hexWord?_hexText, second]

/-- The escape of a character is read as this character. -/
theorem readEscape_unit {c : Char} (small : c.toNat < 0x10000) (some : more ≠ []) :
    readEscape start index ('u' :: (hexText 4 c.toNat ++ more)) = .ok (c, 5) := by
  have valid : c.toNat < 0xD800 ∨ 0xDFFF < c.toNat ∧ c.toNat < 0x110000 := c.valid
  have noHalf : (decide (0xD800 ≤ c.toNat) && decide (c.toNat ≤ 0xDBFF)) = false := by
    rw [← Bool.decide_and, decide_eq_false_iff_not]
    omega
  have unmarked : (decide (0xD800 ≤ c.toNat) && decide (c.toNat ≤ 0xDBFF) &&
      decide (6 < more.length) && decide (more.take 2 = ['\\', 'u'])) = false := by
    rw [noHalf, Bool.false_and, Bool.false_and]
  rw [readEscape_word small some, unmarked]
  simp only [Bool.false_eq_true, if_false, unitChar_toNat]

/-- A character beyond 16 bits is read from its two escapes. -/
theorem readEscape_pair
    {c : Char} {high low : Nat} (isHigh : 0xD800 ≤ high ∧ high ≤ 0xDBFF)
    (isLow : 0xDC00 ≤ low ∧ low ≤ 0xDFFF)
    (code : 0x10000 + (high - 0xD800) * 0x400 + (low - 0xDC00) = c.toNat) (some : more ≠ []) :
    readEscape start index ('u' :: (hexText 4 high ++ (unitEscape low ++ more))) = .ok (c, 11) := by
  have lowSize : low < 0x10000 := by omega
  have marked : (decide (0xD800 ≤ high) && decide (high ≤ 0xDBFF) &&
      decide (6 < (unitEscape low ++ more).length) &&
      decide ((unitEscape low ++ more).take 2 = ['\\', 'u'])) = true := by
    have nonempty := List.length_pos_iff.mpr some
    have long : 6 < (unitEscape low ++ more).length := by
      simp only [unitEscape, List.length_append, List.length_cons, length_hexText lowSize]
      omega
    have mark : (unitEscape low ++ more).take 2 = ['\\', 'u'] := rfl
    rw [decide_eq_true isHigh.1, decide_eq_true isHigh.2, decide_eq_true long,
      decide_eq_true mark]
    rfl
  have second : hexWord? (((unitEscape low ++ more).drop 2).take 4) = .some low := by
    change hexWord? ((hexText 4 low ++ more).take 4) = .some low
    rw [(take_hexText lowSize more).1, hexWord?_hexText]
  have inRange : (decide (0xDC00 ≤ low) && decide (low ≤ 0xDFFF)) = true := by
    rw [decide_eq_true isLow.1, decide_eq_true isLow.2]
    rfl
  rw [readEscape_word (by omega) (List.append_ne_nil_of_right_ne_nil _ some), marked, second]
  simp only [if_true, inRange, code, Char.ofNat_toNat]

theorem readText_skip (taken escaped : List Char) :
    readText start index escaped.length taken (escaped ++ more) =
      readText start (index + escaped.length) 0 taken more := by
  induction escaped generalizing index with
  | nil => rfl
  | cons c rest inductionHypothesis =>
      rw [List.length_cons, List.cons_append, readText, if_pos (Nat.succ_pos _),
        Nat.add_sub_cancel, inductionHypothesis]
      congr 1
      omega

theorem readText_escape
    {c : Char} (escaped taken : List Char)
    (read : readEscape start index (escaped ++ more) = .ok (c, escaped.length)) :
    readText start index 0 taken ('\\' :: escaped ++ more) =
      readText start (index + (escaped.length + 1)) 0 (c :: taken) more := by
  have noQuote : ('\\' : Char) ≠ '"' := by decide
  rw [List.cons_append, readText, if_neg (Nat.lt_irrefl 0), if_neg noQuote, if_pos rfl, read]
  dsimp only
  rw [readText_skip, Nat.add_assoc, Nat.add_comm 1]

/-- A surrogate pair is read as the one character that it writes. -/
theorem readText_pair
    {c : Char} (taken : List Char) (great : 0x10000 ≤ c.toNat) (some : more ≠ []) :
    readText start index 0 taken
        (unitEscape (0xD800 + (c.toNat - 0x10000) / 0x400) ++
          unitEscape (0xDC00 + (c.toNat - 0x10000) % 0x400) ++ more) =
      readText start
        (index + (unitEscape (0xD800 + (c.toNat - 0x10000) / 0x400) ++
          unitEscape (0xDC00 + (c.toNat - 0x10000) % 0x400)).length) 0 (c :: taken) more := by
  have valid : c.toNat < 0xD800 ∨ 0xDFFF < c.toNat ∧ c.toNat < 0x110000 := c.valid
  obtain ⟨high, highIs⟩ : ∃ high, high = 0xD800 + (c.toNat - 0x10000) / 0x400 := ⟨_, rfl⟩
  obtain ⟨low, lowIs⟩ : ∃ low, low = 0xDC00 + (c.toNat - 0x10000) % 0x400 := ⟨_, rfl⟩
  have highSize : high < 0x10000 := by omega
  have lowSize : low < 0x10000 := by omega
  have pair : readEscape start index ('u' :: (hexText 4 high ++ (unitEscape low ++ more))) =
      .ok (c, 11) :=
    readEscape_pair (by omega) (by omega) (by omega) some
  have size : ('u' :: hexText 4 high ++ unitEscape low).length = 11 := by
    simp [unitEscape, length_hexText highSize, length_hexText lowSize]
  rw [← highIs, ← lowIs]
  refine readText_escape ('u' :: hexText 4 high ++ unitEscape low) taken ?_
  rw [size, List.cons_append, List.cons_append, List.append_assoc]
  exact pair

/-- A written character is read as this character, when something follows. -/
theorem readText_writtenChar
    (onlyAscii : Bool) (c : Char) (taken : List Char) (some : more ≠ []) :
    readText start index 0 taken (writtenChar onlyAscii c ++ more) =
      readText start (index + (writtenChar onlyAscii c).length) 0 (c :: taken) more := by
  have unit (small : c.toNat < 0x10000) :
      readText start index 0 taken (unitEscape c.toNat ++ more) =
        readText start (index + (unitEscape c.toNat).length) 0 (c :: taken) more := by
    refine readText_escape ('u' :: hexText 4 c.toNat) taken ?_
    rw [List.length_cons, length_hexText small]
    exact readEscape_unit small some
  unfold writtenChar
  by_cases quote : c = '"'
  · rw [if_pos quote, quote]
    exact readText_escape ['"'] taken rfl
  rw [if_neg quote]
  by_cases backslash : c = '\\'
  · rw [if_pos backslash, backslash]
    exact readText_escape ['\\'] taken rfl
  rw [if_neg backslash]
  by_cases newline : c = '\n'
  · rw [if_pos newline, newline]
    exact readText_escape ['n'] taken rfl
  rw [if_neg newline]
  by_cases carriage : c = '\r'
  · rw [if_pos carriage, carriage]
    exact readText_escape ['r'] taken rfl
  rw [if_neg carriage]
  by_cases tab : c = '\t'
  · rw [if_pos tab, tab]
    exact readText_escape ['t'] taken rfl
  rw [if_neg tab]
  by_cases feed : c = '\x0c'
  · rw [if_pos feed, feed]
    exact readText_escape ['f'] taken rfl
  rw [if_neg feed]
  by_cases back : c = '\x08'
  · rw [if_pos back, back]
    exact readText_escape ['b'] taken rfl
  rw [if_neg back]
  by_cases control : c.toNat < 0x20
  · rw [if_pos control]
    exact unit (by omega)
  rw [if_neg control]
  by_cases plain : (onlyAscii && decide (0x7F ≤ c.toNat)) = true
  · rw [if_pos plain]
    by_cases small : c.toNat < 0x10000
    · rw [if_pos small]
      exact unit small
    · rw [if_neg small]
      exact readText_pair taken (Nat.le_of_not_lt small) some
  · rw [if_neg plain, List.singleton_append, readText, if_neg (Nat.lt_irrefl 0), if_neg quote,
      if_neg backslash, if_neg control]
    rfl

/-- A written text is read back, also in front of something else. -/
theorem readText_written
    (start index : Nat) (more : List Char) (onlyAscii : Bool) (s taken : List Char) :
    ∃ after, readText start index 0 taken (s.flatMap (writtenChar onlyAscii) ++ '"' :: more) =
      .ok (String.ofList (taken.reverse ++ s), ⟨after, more⟩) := by
  induction s generalizing index taken with
  | nil => exact ⟨index + 1, by simp [readText]⟩
  | cons c rest inductionHypothesis =>
      rw [List.flatMap_cons, List.append_assoc,
        readText_writtenChar onlyAscii c taken (by simp)]
      obtain ⟨after, read⟩ := inductionHypothesis (index + (writtenChar onlyAscii c).length)
        (c :: taken)
      refine ⟨after, read.trans ?_⟩
      simp

end Reading

theorem toList_writtenText (onlyAscii : Bool) (s : String) :
    (writtenText onlyAscii s).toList = '"' :: (s.toList.flatMap (writtenChar onlyAscii) ++ ['"']) :=
  String.toList_ofList

theorem noReturn_toDigits (n : Nat) : '\r' ∉ Nat.toDigits 16 n := by
  have noDigit : ∀ digit : Fin 16, Nat.digitChar digit ≠ '\r' := by decide
  induction n using Nat.strongRecOn with
  | _ n inductionHypothesis =>
      by_cases small : n < 16
      · rw [Nat.toDigits_of_lt_base small, List.mem_singleton]
        exact (noDigit ⟨n, small⟩).symm
      · rw [Nat.toDigits_of_base_le (by decide) (Nat.le_of_not_lt small), List.mem_append,
          List.mem_singleton, not_or]
        exact ⟨inductionHypothesis (n / 16) (by omega),
          (noDigit ⟨n % 16, Nat.mod_lt n (by decide)⟩).symm⟩

theorem noReturn_unitEscape (word : Nat) : '\r' ∉ unitEscape word := by
  have zeros : '\r' ∉ List.replicate (4 - (Nat.toDigits 16 word).length) '0' := fun member =>
    absurd (List.eq_of_mem_replicate member) (by decide)
  simp only [unitEscape, hexText, List.mem_cons, List.mem_append, not_or]
  exact ⟨by decide, by decide, zeros, noReturn_toDigits word⟩

theorem noReturn_writtenChar (onlyAscii : Bool) (c : Char) : '\r' ∉ writtenChar onlyAscii c := by
  have unlessBoth : ∀ {condition : Prop} [Decidable condition] {first second : List Char},
      '\r' ∉ first → '\r' ∉ second → '\r' ∉ if condition then first else second := by
    intro condition _ first second inFirst inSecond
    by_cases holds : condition
    · rwa [if_pos holds]
    · rwa [if_neg holds]
  by_cases carriage : c = '\r'
  · subst carriage
    cases onlyAscii <;> decide
  · have other : '\r' ∉ [c] := by simpa using Ne.symm carriage
    have pair : ∀ high low, '\r' ∉ unitEscape high ++ unitEscape low := fun high low => by
      rw [List.mem_append, not_or]
      exact ⟨noReturn_unitEscape high, noReturn_unitEscape low⟩
    unfold writtenChar
    iterate 7 refine unlessBoth (by decide) ?_
    exact unlessBoth (noReturn_unitEscape _)
      (unlessBoth (unlessBoth (noReturn_unitEscape _) (pair _ _)) other)

/-- A carriage return is escaped. -/
theorem noReturn_writtenText (onlyAscii : Bool) (s : String) :
    '\r' ∉ (writtenText onlyAscii s).toList := by
  rw [toList_writtenText]
  simp only [List.mem_cons, List.mem_append, List.mem_flatMap, List.not_mem_nil, or_false, not_or]
  refine ⟨by decide, ?_, by decide⟩
  rintro ⟨c, -, written⟩
  exact noReturn_writtenChar onlyAscii c written

/-! ## Numbers -/

/-- What stands behind a value: nothing, a blank, a comma or a closing bracket. -/
def Delimited (more : List Char) : Prop :=
  ∀ c ∈ more.head?, isSpace c = true ∨ c = ',' ∨ c = ']' ∨ c = '\x7d'

namespace Delimited

variable {more : List Char}

theorem goesOn_not (delimited : Delimited more) :
    ∀ c ∈ more.head?, isAsciiDigit c = false ∧ c ≠ '.' ∧ c ≠ 'e' ∧ c ≠ 'E' := by
  intro c first
  have known := delimited c first
  simp only [isSpace, Bool.or_eq_true, beq_iff_eq] at known
  rcases known with (((rfl | rfl) | rfl) | rfl) | rfl | rfl | rfl <;> decide

end Delimited

section Numbers

variable {index : Nat} {more : List Char}

theorem fractionPart_of_delimited (delimited : Delimited more) : fractionPart more = [] := by
  unfold fractionPart
  split
  · exact absurd rfl (delimited.goesOn_not '.' rfl).2.1
  · rfl

theorem powerPart_of_delimited (delimited : Delimited more) : powerPart more = [] := by
  cases more with
  | nil => rfl
  | cons c rest =>
      obtain ⟨-, -, noSmall, noGreat⟩ := delimited.goesOn_not c rfl
      simp [powerPart, noSmall, noGreat]

theorem wholeDigits_append
    {digits : List Char} (allDigits : ∀ c ∈ digits, isAsciiDigit c = true)
    (start : digits = ['0'] ∨ digits ≠ [] ∧ digits.head? ≠ some '0')
    (ends : ∀ c ∈ more.head?, isAsciiDigit c = false) :
    wholeDigits (digits ++ more) = digits := by
  rcases start with rfl | ⟨nonempty, notZero⟩
  · rfl
  · have taken := (takeWhile_digits_append allDigits ends).1
    unfold wholeDigits
    split
    · next rest same =>
        cases digits with
        | nil => exact absurd rfl nonempty
        | cons digit others =>
            cases same
            exact absurd rfl notZero
    · exact taken

section Numeral

variable (numeral : Binary64.Numeral)

theorem head?_powerChars_append (delimited : Delimited more) :
    ∀ c ∈ (numeral.powerChars ++ more).head?, isAsciiDigit c = false := by
  have power := numeral.head?_powerChars
  cases known : numeral.powerChars with
  | nil => exact fun c first => (delimited.goesOn_not c first).1
  | cons c rest =>
      rw [known] at power
      exact power

theorem fractionPart_numeral (delimited : Delimited more) :
    fractionPart (numeral.fractionChars ++ (numeral.powerChars ++ more)) =
      numeral.fractionChars := by
  unfold Binary64.Numeral.fractionChars
  by_cases nothing : numeral.fraction = []
  · rw [if_pos nothing, List.nil_append, Binary64.Numeral.powerChars]
    cases numeral.power with
    | none => exact fractionPart_of_delimited delimited
    | some written => rfl
  · have taken := (takeWhile_digits_append numeral.fractionDigits
      (head?_powerChars_append numeral delimited)).1
    rw [if_neg nothing, List.cons_append]
    simp [fractionPart, taken]

theorem powerPart_numeral (delimited : Delimited more) :
    powerPart (numeral.powerChars ++ more) = numeral.powerChars := by
  unfold Binary64.Numeral.powerChars
  cases known : numeral.power with
  | none => exact powerPart_of_delimited delimited
  | some written =>
      obtain ⟨negative, digits⟩ := written
      obtain ⟨nonempty, allDigits⟩ := numeral.powerDigits _ (Option.mem_def.mpr known)
      have taken := (takeWhile_digits_append allDigits fun c first =>
        (delimited.goesOn_not c first).1).1
      cases negative <;> simp [powerPart, taken]

theorem head?_fractionChars_append (delimited : Delimited more) :
    ∀ c ∈ (numeral.fractionChars ++ (numeral.powerChars ++ more)).head?,
      isAsciiDigit c = false := by
  have tail := numeral.head?_tail
  unfold Binary64.Numeral.fractionChars at tail ⊢
  by_cases nothing : numeral.fraction = []
  · rw [if_pos nothing]
    exact head?_powerChars_append numeral delimited
  · rw [if_neg nothing] at tail ⊢
    exact tail

end Numeral

/-- A number whose parts are read off one after the other. -/
theorem readNumber_parts
    {whole fraction power : List Char} (index : Nat) (negative : Bool)
    (start : ∃ c ∈ whole.head?, isAsciiDigit c = true)
    (wholeRead : wholeDigits (whole ++ (fraction ++ (power ++ more))) = whole)
    (fractionRead : fractionPart (fraction ++ (power ++ more)) = fraction)
    (powerRead : powerPart (power ++ more) = power) :
    ∃ after, readNumber ⟨index, (if negative then ['-'] else []) ++
        (whole ++ (fraction ++ (power ++ more)))⟩ =
      if fraction.isEmpty && power.isEmpty then
        if digitLimit < whole.length then .error (.number (.tooManyDigits whole.length))
        else .ok (.int (signedValue negative whole), ⟨after, more⟩)
      else
        match Binary64.readWord ((if negative then ['-'] else []) ++ whole ++ fraction ++ power) with
        | some x => .ok (.float x, ⟨after, more⟩)
        | none => .error (.problem .valueExpected index) := by
  obtain ⟨sign, signIs⟩ : ∃ sign : List Char, sign = if negative then ['-'] else [] := ⟨_, rfl⟩
  have nonempty : whole.isEmpty = false := by
    obtain ⟨c, first, -⟩ := start
    cases whole with
    | nil => cases first
    | cons => rfl
  have signed :
      (if (sign ++ (whole ++ (fraction ++ (power ++ more)))).head? = some '-' then ['-'] else []) =
        sign := by
    obtain ⟨c, first, digit⟩ := start
    have noMinus : c ≠ '-' := by rintro rfl; revert digit; decide
    cases whole with
    | nil => cases first
    | cons => cases first; cases negative <;> simp [signIs, noMinus]
  have isMinus : (!sign.isEmpty) = negative := by cases negative <;> simp [signIs]
  have behind : (sign ++ (whole ++ (fraction ++ (power ++ more)))).drop
      (sign.length + whole.length) = fraction ++ (power ++ more) := by
    rw [← List.append_assoc, ← List.length_append, List.drop_left]
  have last : (sign ++ (whole ++ (fraction ++ (power ++ more)))).drop
      (sign.length + whole.length + fraction.length + power.length) = more := by
    rw [Nat.add_assoc, ← List.drop_drop, behind, ← List.append_assoc, ← List.length_append,
      List.drop_left]
  refine ⟨index + (sign.length + whole.length + fraction.length + power.length), ?_⟩
  rw [← signIs]
  unfold readNumber Cursor.skip
  cases word : Binary64.readWord (sign ++ whole ++ fraction ++ power) <;>
    simp only [signed, List.drop_left, wholeRead, nonempty, if_neg Bool.false_ne_true, behind,
      fractionRead, powerRead, isMinus, last, word]

/-- A numeral is read up to its end. -/
theorem readNumber_numeral
    (index : Nat) (negative : Bool) (numeral : Binary64.Numeral) (delimited : Delimited more) :
    ∃ after, readNumber ⟨index, (if negative then ['-'] else []) ++ numeral.chars ++ more⟩ =
      .ok (.float (Binary64.ofDecimal negative numeral.coefficient numeral.exponent),
        ⟨after, more⟩) := by
  have start : ∃ c ∈ numeral.whole.head?, isAsciiDigit c = true := by
    cases known : numeral.whole with
    | nil => exact absurd known numeral.whole_ne_nil
    | cons c rest => exact ⟨c, rfl, numeral.wholeDigits c (known ▸ List.mem_cons_self)⟩
  have marked : (numeral.fractionChars.isEmpty && numeral.powerChars.isEmpty) = false := by
    unfold Binary64.Numeral.fractionChars Binary64.Numeral.powerChars
    rcases numeral.marked with fraction | power
    · rw [if_neg fraction]
      rfl
    · cases known : numeral.power with
      | none => exact absurd known power
      | some written => exact Bool.and_false _
  obtain ⟨after, read⟩ := readNumber_parts index negative start
    (wholeDigits_append numeral.wholeDigits numeral.wholeStart
      (head?_fractionChars_append numeral delimited))
    (fractionPart_numeral numeral delimited) (powerPart_numeral numeral delimited)
  have word := numeral.readWord_chars negative
  rw [Binary64.Numeral.chars, ← List.append_assoc, ← List.append_assoc] at word
  refine ⟨after, ?_⟩
  rw [marked, if_neg Bool.false_ne_true, word] at read
  refine Eq.trans ?_ read
  simp [Binary64.Numeral.chars]

theorem toList_integerText_signed (n : Int) :
    (integerText n).toList =
      (if decide (n < 0) then ['-'] else []) ++ Nat.toDigits 10 n.natAbs := by
  unfold integerText
  by_cases negative : n < 0 <;> simp [negative, decimalText]

/-- A whole number is read back from its digits. -/
theorem readNumber_integer
    {n : Int} (index : Nat) (short : n.natAbs < 10 ^ digitLimit) (delimited : Delimited more) :
    ∃ after, readNumber ⟨index, (integerText n).toList ++ more⟩ = .ok (.int n, ⟨after, more⟩) := by
  obtain ⟨magnitude, known⟩ : ∃ magnitude, n.natAbs = magnitude := ⟨_, rfl⟩
  have allDigits : ∀ c ∈ Nat.toDigits 10 magnitude, isAsciiDigit c = true :=
    fun c => isAsciiDigit_of_mem_toDigits
  have start : ∃ c ∈ (Nat.toDigits 10 magnitude).head?, isAsciiDigit c = true := by
    cases written : Nat.toDigits 10 magnitude with
    | nil => exact absurd written Nat.toDigits_ne_nil
    | cons c rest => exact ⟨c, rfl, allDigits c (written ▸ List.mem_cons_self)⟩
  have first : Nat.toDigits 10 magnitude = ['0'] ∨
      Nat.toDigits 10 magnitude ≠ [] ∧ (Nat.toDigits 10 magnitude).head? ≠ some '0' := by
    by_cases nothing : magnitude = 0
    · rw [nothing]
      exact .inl (by decide)
    · exact .inr ⟨Nat.toDigits_ne_nil, toDigits_head_ne_zero nothing⟩
  have notLong : ¬ digitLimit < (Nat.toDigits 10 magnitude).length := by
    rw [known] at short
    exact Nat.not_lt.mpr ((decimalLength_le_iff (by decide)).mpr short)
  have value : signedValue (n < 0) (Nat.toDigits 10 magnitude) = n := by
    unfold signedValue
    rw [decimalValue_toDigits]
    split_ifs with negative
    · rw [decide_eq_true_eq] at negative
      omega
    · rw [decide_eq_true_eq] at negative
      omega
  have wholeRead :
      wholeDigits (Nat.toDigits 10 magnitude ++ ([] ++ ([] ++ more))) = Nat.toDigits 10 magnitude :=
    wholeDigits_append allDigits first fun c isFirst => (delimited.goesOn_not c isFirst).1
  have fractionRead : fractionPart ([] ++ ([] ++ more)) = [] := fractionPart_of_delimited delimited
  have powerRead : powerPart ([] ++ more) = [] := powerPart_of_delimited delimited
  obtain ⟨after, read⟩ := readNumber_parts index (n < 0) start wholeRead fractionRead powerRead
  refine ⟨after, ?_⟩
  rw [List.isEmpty_nil, Bool.and_self, if_pos rfl, if_neg notLong, value] at read
  rw [toList_integerText_signed, known, List.append_assoc]
  exact read

/-! ## Words -/

/-- No word is taken for a number: behind a minus sign none goes on with a digit. -/
theorem readScalar_of_digit
    {c : Char} {chars : List Char} (negative : Bool) (first : chars.head? = some c)
    (digit : isAsciiDigit c = true) :
    readScalar ⟨index, (if negative then ['-'] else []) ++ chars⟩ =
      readNumber ⟨index, (if negative then ['-'] else []) ++ chars⟩ := by
  have noWord : words.find? (fun word => word.1.isPrefixOf
      ((if negative then ['-'] else []) ++ chars)) = none := by
    have noDigit : ∀ letter ∈ ['n', 't', 'f', 'N', 'I', '-'], isAsciiDigit letter = false := by
      simp [isAsciiDigit]
    have noLetter : ∀ letter ∈ ['n', 't', 'f', 'N', 'I', '-'], (letter == c) = false := by
      intro letter member
      rw [beq_eq_false_iff_ne]
      rintro rfl
      cases (noDigit _ member).symm.trans digit
    cases chars with
    | nil => cases first
    | cons other rest =>
        cases first
        simp only [List.forall_mem_cons] at noLetter
        cases negative <;> simp [words, List.isPrefixOf, noLetter]
  unfold readScalar
  rw [noWord]

theorem writtenFloat_finite
    {negative : Bool} {significand : Nat} {exponent : Int}
    (fits : Binary64.Fits significand exponent) :
    writtenFloat (.finite negative significand exponent fits) =
      Binary64.write (.finite negative significand exponent fits) :=
  rfl

/-- A written binary number is read back. -/
theorem readScalar_writtenFloat (x : Binary64) (delimited : Delimited more) :
    ∃ after, readScalar ⟨index, (writtenFloat x).toList ++ more⟩ = .ok (.float x, ⟨after, more⟩) := by
  cases x with
  | notANumber => exact ⟨index + 3, rfl⟩
  | infinite negative =>
      cases negative with
      | false => exact ⟨index + 8, rfl⟩
      | true => exact ⟨index + 9, rfl⟩
  | finite negative significand exponent fits =>
      obtain ⟨numeral, written, value⟩ := Binary64.exists_numeral_write fits
      obtain ⟨after, read⟩ := readNumber_numeral index negative numeral delimited
      obtain ⟨c, rest, chars, digit⟩ := numeral.exists_head
      refine ⟨after, ?_⟩
      rw [value] at read
      rw [writtenFloat_finite, written, List.append_assoc]
      have first : (numeral.chars ++ more).head? = some c := by rw [chars]; rfl
      rw [readScalar_of_digit negative first digit, ← List.append_assoc, read]

theorem readScalar_integer
    {n : Int} (short : n.natAbs < 10 ^ digitLimit) (delimited : Delimited more) :
    ∃ after, readScalar ⟨index, (integerText n).toList ++ more⟩ = .ok (.int n, ⟨after, more⟩) := by
  obtain ⟨after, read⟩ := readNumber_integer index short delimited
  refine ⟨after, ?_⟩
  rw [toList_integerText_signed, List.append_assoc] at read ⊢
  cases written : Nat.toDigits 10 n.natAbs with
  | nil => exact absurd written Nat.toDigits_ne_nil
  | cons c rest =>
      have digit : isAsciiDigit c = true :=
        isAsciiDigit_of_mem_toDigits (written ▸ List.mem_cons_self)
      rw [written] at read
      rw [readScalar_of_digit _ rfl digit, read]

end Numbers

end QuoteDesk.Json
