import QuoteDesk.Text.Blank

/-!
# The written form of a directive

A mark is one bracketed directive with the field texts exactly as they stand in it. The relation
`Mark.Spells` states the written form; `Mark.split?` finds the mark at the front of a text. The main
statements say that the two agree and that a mark at the front of a text has only one end.
-/

namespace QuoteDesk

/-- A bracketed directive with the texts of its fields. -/
inductive Mark where
  | add (sku quantity : List Char)
  | remove (sku : List Char)
deriving DecidableEq, Repr

namespace Mark

def opening : List Char := ['[', 'A', 'C', 'T', 'I', 'O', 'N', ':']

def addName : List Char := ['A', 'D', 'D', '_', 'T', 'O', '_', 'Q', 'U', 'O', 'T', 'E', ',']

def removeName : List Char :=
  ['R', 'E', 'M', 'O', 'V', 'E', '_', 'F', 'R', 'O', 'M', '_', 'Q', 'U', 'O', 'T', 'E', ',']

def skuName : List Char := ['S', 'K', 'U', ':']

def quantityName : List Char := ['Q', 'U', 'A', 'N', 'T', 'I', 'T', 'Y', ':']

/-- Characters that may stand in a field: all but the comma and the square brackets. -/
def inField (c : Char) : Bool :=
  c != ']' && c != ',' && c != '['

def IsField (chars : List Char) : Prop :=
  ∀ c ∈ chars, inField c = true

/-- A text of spaces and tabs. -/
def IsGap (chars : List Char) : Prop :=
  ∀ c ∈ chars, Text.isInlineBlank c = true

/-- The written form of a mark: gaps may stand behind each comma. -/
inductive Spells : Mark → List Char → Prop where
  | add {sku quantity gap gap' : List Char} (skuField : IsField sku) (quantityField : IsField quantity)
      (isGap : IsGap gap) (isGap' : IsGap gap') :
      Spells (.add sku quantity)
        (opening ++ addName ++ gap ++ skuName ++ sku ++ [','] ++ gap' ++ quantityName ++ quantity ++
          [']'])
  | remove {sku gap : List Char} (skuField : IsField sku) (isGap : IsGap gap) :
      Spells (.remove sku) (opening ++ removeName ++ gap ++ skuName ++ sku ++ [']'])

/-! ## Finding a mark at the front of a text -/

def dropWord? (word chars : List Char) : Option (List Char) :=
  if word.isPrefixOf chars then some (chars.drop word.length) else none

/-- Splits a named field off: a gap, the name and the text of the field. -/
def splitField? (name chars : List Char) : Option (List Char × List Char) :=
  (dropWord? name (chars.dropWhile Text.isInlineBlank)).map fun rest =>
    (rest.takeWhile inField, rest.dropWhile inField)

def splitAdd? (chars : List Char) : Option (Mark × List Char) := do
  let rest ← dropWord? addName chars
  let (sku, rest) ← splitField? skuName rest
  let rest ← dropWord? [','] rest
  let (quantity, rest) ← splitField? quantityName rest
  let rest ← dropWord? [']'] rest
  return (.add sku quantity, rest)

def splitRemove? (chars : List Char) : Option (Mark × List Char) := do
  let rest ← dropWord? removeName chars
  let (sku, rest) ← splitField? skuName rest
  let rest ← dropWord? [']'] rest
  return (.remove sku, rest)

/-- Splits the mark off that stands at the front of a text. -/
def split? (chars : List Char) : Option (Mark × List Char) := do
  let rest ← dropWord? opening chars
  (splitAdd? rest).or (splitRemove? rest)

/-! ## Splitting and spelling agree -/

theorem dropWord?_eq_some_iff {word chars rest : List Char} :
    dropWord? word chars = some rest ↔ chars = word ++ rest := by
  simp only [dropWord?, List.isPrefixOf_iff_prefix]
  constructor
  · intro found
    split at found
    · rename_i isFront
      obtain ⟨tail, rfl⟩ := isFront
      simpa using found
    · simp at found
  · rintro rfl
    simp

@[simp] theorem dropWord?_append (word rest : List Char) : dropWord? word (word ++ rest) = some rest :=
  dropWord?_eq_some_iff.2 rfl

@[simp] theorem dropWord?_singleton (c : Char) (rest : List Char) :
    dropWord? [c] (c :: rest) = some rest :=
  dropWord?_append [c] rest

theorem splitField?_eq_some {name chars field rest : List Char}
    (found : splitField? name chars = some (field, rest)) :
    ∃ gap, IsGap gap ∧ IsField field ∧ chars = gap ++ name ++ field ++ rest := by
  simp only [splitField?, Option.map_eq_some_iff, dropWord?_eq_some_iff, Prod.mk.injEq] at found
  obtain ⟨tail, behindGap, rfl, rfl⟩ := found
  refine ⟨chars.takeWhile Text.isInlineBlank, fun c member => ?_, fun c member => ?_, ?_⟩
  · exact List.all_eq_true.1 List.all_takeWhile c member
  · exact List.all_eq_true.1 List.all_takeWhile c member
  · rw [List.append_assoc, List.takeWhile_append_dropWhile, List.append_assoc, ← behindGap,
      List.takeWhile_append_dropWhile]

/-- What is split off is a mark in its written form. -/
theorem spells_of_split? {chars rest : List Char} {mark : Mark}
    (found : split? chars = some (mark, rest)) :
    ∃ word, Spells mark word ∧ chars = word ++ rest := by
  simp only [split?, Option.bind_eq_bind, Option.bind_eq_some_iff, dropWord?_eq_some_iff,
    Option.or_eq_some_iff] at found
  obtain ⟨body, rfl, added | ⟨_, removed⟩⟩ := found
  · simp only [splitAdd?, Option.bind_eq_bind, Option.bind_eq_some_iff, dropWord?_eq_some_iff,
      Option.pure_def, Option.some.injEq, Prod.mk.injEq, Prod.exists] at added
    obtain ⟨tail, rfl, sku, behindSku, skuFound, behindComma, rfl, quantity, behindQuantity,
      quantityFound, rest, rfl, rfl, rfl⟩ := added
    obtain ⟨gap, isGap, skuField, rfl⟩ := splitField?_eq_some skuFound
    obtain ⟨gap', isGap', quantityField, rfl⟩ := splitField?_eq_some quantityFound
    exact ⟨_, .add skuField quantityField isGap isGap', by simp⟩
  · simp only [splitRemove?, Option.bind_eq_bind, Option.bind_eq_some_iff, dropWord?_eq_some_iff,
      Option.pure_def, Option.some.injEq, Prod.mk.injEq, Prod.exists] at removed
    obtain ⟨tail, rfl, sku, behindSku, skuFound, rest, rfl, rfl, rfl⟩ := removed
    obtain ⟨gap, isGap, skuField, rfl⟩ := splitField?_eq_some skuFound
    exact ⟨_, .remove skuField isGap, by simp⟩

theorem splitField?_append {name gap field rest : List Char} {first next : Char}
    (isGap : IsGap gap) (isField : IsField field) (firstInk : Text.isInlineBlank first = false)
    (nextEnds : inField next = false) :
    splitField? (first :: name) (gap ++ (first :: name) ++ field ++ next :: rest) =
      some (field, next :: rest) := by
  have behindGap : (gap ++ (first :: name) ++ field ++ next :: rest).dropWhile Text.isInlineBlank =
      (first :: name) ++ (field ++ next :: rest) := by
    rw [List.append_assoc, List.append_assoc, List.dropWhile_append_of_pos isGap]
    simp [firstInk]
  have taken : (field ++ next :: rest).takeWhile inField = field := by
    rw [List.takeWhile_append_of_pos isField]
    simp [nextEnds]
  have left : (field ++ next :: rest).dropWhile inField = next :: rest := by
    rw [List.dropWhile_append_of_pos isField]
    simp [nextEnds]
  simp only [splitField?, behindGap, dropWord?_append, Option.map_some, taken, left]

/-- A mark in its written form is split off whatever follows it. -/
theorem split?_of_spells {mark : Mark} {word : List Char} (spelled : Spells mark word)
    (rest : List Char) : split? (word ++ rest) = some (mark, rest) := by
  cases spelled with
  | @add sku quantity gap gap' skuField quantityField isGap isGap' =>
    have skuFound := @splitField?_append ['K', 'U', ':'] gap sku
      (gap' ++ quantityName ++ quantity ++ [']'] ++ rest) 'S' ',' isGap skuField rfl rfl
    have quantityFound :=
      @splitField?_append ['U', 'A', 'N', 'T', 'I', 'T', 'Y', ':'] gap' quantity rest 'Q' ']'
      isGap' quantityField rfl rfl
    have text : opening ++ addName ++ gap ++ skuName ++ sku ++ [','] ++ gap' ++ quantityName ++
        quantity ++ [']'] ++ rest = opening ++ (addName ++ (gap ++ ('S' :: ['K', 'U', ':']) ++ sku ++
          ',' :: (gap' ++ quantityName ++ quantity ++ [']'] ++ rest))) := by
      simp [skuName]
    have quantityText : gap' ++ quantityName ++ quantity ++ [']'] ++ rest =
        gap' ++ ('Q' :: ['U', 'A', 'N', 'T', 'I', 'T', 'Y', ':']) ++ quantity ++ ']' :: rest := by
      simp [quantityName]
    have body : splitAdd? (addName ++ (gap ++ ('S' :: ['K', 'U', ':']) ++ sku ++
        ',' :: (gap' ++ quantityName ++ quantity ++ [']'] ++ rest))) =
        some (.add sku quantity, rest) := by
      simp only [splitAdd?, dropWord?_append, Option.bind_eq_bind, Option.bind_some]
      rw [show skuName = 'S' :: ['K', 'U', ':'] from rfl, skuFound]
      simp only [Option.bind_some, dropWord?_singleton]
      rw [quantityText, show quantityName = 'Q' :: ['U', 'A', 'N', 'T', 'I', 'T', 'Y', ':'] from rfl,
        quantityFound]
      simp only [Option.bind_some, dropWord?_singleton, Option.pure_def]
    rw [text]
    simp only [split?, dropWord?_append, Option.bind_eq_bind, Option.bind_some, body,
      Option.some_or]
  | @remove sku gap skuField isGap =>
    have skuFound := @splitField?_append ['K', 'U', ':'] gap sku rest 'S' ']' isGap skuField rfl rfl
    have text : opening ++ removeName ++ gap ++ skuName ++ sku ++ [']'] ++ rest =
        opening ++ (removeName ++ (gap ++ ('S' :: ['K', 'U', ':']) ++ sku ++ ']' :: rest)) := by
      simp [skuName]
    have noAddition : splitAdd? (removeName ++ (gap ++ ('S' :: ['K', 'U', ':']) ++ sku ++ ']' :: rest)) =
        none := by
      simp [splitAdd?, dropWord?, addName, removeName]
    rw [text]
    simp only [split?, dropWord?_append, Option.bind_eq_bind, Option.bind_some, noAddition,
      Option.none_or, splitRemove?]
    rw [show skuName = 'S' :: ['K', 'U', ':'] from rfl, skuFound]
    simp only [Option.bind_some, dropWord?_singleton, Option.pure_def]

end Mark

end QuoteDesk
