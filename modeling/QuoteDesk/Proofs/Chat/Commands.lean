import QuoteDesk.Chat.Command
import QuoteDesk.Proofs.Text.Trimming

/-!
# Typed commands

A line is marked when a mark is the first thing in it that is not blank.  What is read from
it is told by the text behind the mark alone, whichever mark it is and whatever blanks stand
around.  The text asks for something when its quotes are closed, its last backslash escapes
a character and its words spell a command.
-/

namespace QuoteDesk

open Text

/-! ## Words -/

namespace CommandLine

/-- The place after one more character. -/
def Place.next (place : Place) (c : Char) : Place :=
  match place with
  | .bare => if c = '\\' then .escaped none else if c = '"' ∨ c = '\'' then .inside c else .bare
  | .inside quote =>
      if c = quote then .bare
      else if c = '\\' ∧ quote = '"' then .escaped (some quote)
      else .inside quote
  | .escaped none => .bare
  | .escaped (some quote) => .inside quote

/-- What is wrong with a line that ends at a place. -/
def Place.fault? : Place → Option WordFault
  | .bare => none
  | .inside _ => some .openQuote
  | .escaped _ => some .nothingEscaped

theorem exists_readWords_next
    (place : Place) (before : List String) (word : Option (List Char)) (c : Char)
    (rest : List Char) :
    ∃ words begun, readWords place before word (c :: rest) =
      readWords (place.next c) words begun rest := by
  cases place with
  | bare =>
      by_cases separates : isSeparator c = true
      · have plain : Place.next .bare c = .bare := by
          rw [Place.next, if_neg, if_neg]
          · rintro (rfl | rfl) <;> cases separates
          · rintro rfl
            cases separates
        rw [plain]
        cases word with
        | none => exact ⟨before, none, by rw [readWords, if_pos separates]⟩
        | some begun =>
            exact ⟨String.ofList begun.reverse :: before, none, by rw [readWords, if_pos separates]⟩
      · rw [readWords.eq_def, Place.next]
        simp only [if_neg separates, Bool.or_eq_true, decide_eq_true_eq]
        split
        · exact ⟨_, _, rfl⟩
        · split
          · exact ⟨_, _, rfl⟩
          · exact ⟨_, _, rfl⟩
  | inside quote =>
      rw [readWords, Place.next]
      simp only [Bool.and_eq_true, decide_eq_true_eq]
      split
      · exact ⟨_, _, rfl⟩
      · split
        · exact ⟨_, _, rfl⟩
        · exact ⟨_, _, rfl⟩
  | escaped around => cases around <;> exact ⟨_, _, rfl⟩

/-- The induction is on what is left of the line; the words read so far do not count. -/
theorem readWords_eq_error_iff
    {place : Place} {before : List String} {word : Option (List Char)} {line : List Char}
    {fault : WordFault} :
    readWords place before word line = .error fault ↔
      (line.foldl Place.next place).fault? = some fault := by
  induction line generalizing place before word with
  | nil =>
      cases place with
      | bare =>
          cases word <;> exact ⟨by rintro ⟨⟩, by rintro ⟨⟩⟩
      | inside quote => simp [readWords, Place.fault?]
      | escaped around => simp [readWords, Place.fault?]
  | cons c rest inductionHypothesis =>
      obtain ⟨words, begun, stepped⟩ := exists_readWords_next place before word c rest
      rw [stepped, inductionHypothesis, List.foldl_cons]

/-- Words are refused for the place in which the line ends. -/
theorem words_eq_error_iff {line : List Char} {fault : WordFault} :
    words line = .error fault ↔ (line.foldl Place.next .bare).fault? = some fault :=
  readWords_eq_error_iff

end CommandLine

/-! ## Spelling -/

namespace ChatCommand

/-- Words that spell a command. -/
inductive Spells : List String → ChatCommand → Prop
  | quote {verb : String} {flags : List String} (quotes : lowercase verb ∈ ["quote", "q"])
      (known : ∀ flag ∈ flags, lowercase flag ∈ ["--json", "--as-json"]) :
      Spells (verb :: flags) (.showQuote (!flags.isEmpty))
  | addBom {verb action : String} (reviews : lowercase verb = "bom")
      (adds : lowercase action ∈ ["add", "accept"]) : Spells [verb, action] .addBom
  | dismissBom {verb action : String} (reviews : lowercase verb = "bom")
      (dismisses : lowercase action ∈ ["dismiss", "discard"]) : Spells [verb, action] .dismissBom
  | help {verb : String} (helps : lowercase verb ∈ ["help", "h", "?"]) : Spells [verb] .help
  | quit {verb : String} (quits : lowercase verb ∈ ["quit", "exit"]) : Spells [verb] .quit

theorem readFlags_eq_ok_iff {asJson : Bool} {flags : List String} {command : ChatCommand} :
    readFlags asJson flags = .ok command ↔
      (∀ flag ∈ flags, lowercase flag ∈ ["--json", "--as-json"]) ∧
        command = .showQuote (asJson || !flags.isEmpty) := by
  induction flags generalizing asJson with
  | nil =>
      rw [readFlags, List.isEmpty_nil, Bool.not_true, Bool.or_false, Except.ok.injEq, eq_comm]
      exact ⟨fun same => ⟨by rintro _ ⟨⟩, same⟩, And.right⟩
  | cons flag rest inductionHypothesis =>
      simp only [readFlags, List.forall_mem_cons, List.contains_iff_mem]
      split
      · rename_i known
        rw [inductionHypothesis, Bool.true_or, List.isEmpty_cons, Bool.not_false, Bool.or_true]
        exact ⟨fun ⟨all, same⟩ => ⟨⟨known, all⟩, same⟩, fun ⟨⟨_, all⟩, same⟩ => ⟨all, same⟩⟩
      · rename_i unknown
        exact ⟨by rintro ⟨⟩, fun ⟨⟨known, _⟩, _⟩ => absurd known unknown⟩

theorem readBomAction_eq_ok_iff {rest : List String} {command : ChatCommand} :
    readBomAction rest = .ok command ↔
      ∃ action, rest = [action] ∧
        (lowercase action ∈ ["add", "accept"] ∧ command = .addBom ∨
          lowercase action ∈ ["dismiss", "discard"] ∧ command = .dismissBom) := by
  constructor
  · intro read
    rcases rest with _ | ⟨action, more⟩
    · cases read
    · simp only [readBomAction, List.contains_iff_mem] at read
      split at read
      · cases read
      · rename_i known
        split at read
        · rename_i alone
          cases read
          refine ⟨action, by rw [List.isEmpty_iff.mp alone], ?_⟩
          split at known
          · rename_i adds
            cases known
            exact Or.inl ⟨adds, rfl⟩
          · split at known
            · rename_i dismisses
              cases known
              exact Or.inr ⟨dismisses, rfl⟩
            · cases known
        · cases read
  · rintro ⟨action, rfl, ⟨adds, rfl⟩ | ⟨dismisses, rfl⟩⟩
    · simp only [readBomAction, List.contains_iff_mem, if_pos adds, List.isEmpty_nil, if_true]
    · have apart : lowercase action ∉ ["add", "accept"] :=
        (by decide : ∀ word ∈ ["dismiss", "discard"], word ∉ ["add", "accept"]) _ dismisses
      simp only [readBomAction, List.contains_iff_mem, if_neg apart, if_pos dismisses,
        List.isEmpty_nil, if_true]

theorem alone_eq_ok_iff {command other : ChatCommand} {verb : String} {rest : List String} :
    alone command verb rest = .ok other ↔ rest = [] ∧ other = command := by
  cases rest with
  | nil => exact ⟨by rintro ⟨⟩; exact ⟨rfl, rfl⟩, by rintro ⟨-, rfl⟩; rfl⟩
  | cons word more => exact ⟨by rintro ⟨⟩, by rintro ⟨⟨⟩, -⟩⟩

/-- Words are read as the command that they spell. -/
theorem ofWords_eq_ok_iff {words : List String} {command : ChatCommand} :
    ofWords words = .ok command ↔ Spells words command := by
  constructor
  · intro read
    rcases words with _ | ⟨verb, rest⟩
    · cases read
    · simp only [ofWords, List.contains_iff_mem] at read
      split at read
      · rename_i reviews
        obtain ⟨action, rfl, ⟨adds, rfl⟩ | ⟨dismisses, rfl⟩⟩ := readBomAction_eq_ok_iff.mp read
        · exact .addBom reviews adds
        · exact .dismissBom reviews dismisses
      · split at read
        · rename_i quotes
          obtain ⟨known, rfl⟩ := readFlags_eq_ok_iff.mp read
          exact .quote quotes known
        · split at read
          · rename_i helps
            obtain ⟨rfl, rfl⟩ := alone_eq_ok_iff.mp read
            exact .help helps
          · split at read
            · rename_i quits
              obtain ⟨rfl, rfl⟩ := alone_eq_ok_iff.mp read
              exact .quit quits
            · cases read
  · intro spelled
    -- The branches are tried in turn, and no verb fits two of them.
    cases spelled with
    | @quote verb flags quotes known =>
        have noReview : lowercase verb ≠ "bom" := ne_of_mem_of_not_mem quotes (by decide)
        simp only [ofWords, List.contains_iff_mem, if_neg noReview, if_pos quotes]
        exact readFlags_eq_ok_iff.mpr ⟨known, rfl⟩
    | @addBom verb action reviews adds =>
        rw [ofWords, if_pos reviews]
        exact readBomAction_eq_ok_iff.mpr ⟨action, rfl, Or.inl ⟨adds, rfl⟩⟩
    | @dismissBom verb action reviews dismisses =>
        rw [ofWords, if_pos reviews]
        exact readBomAction_eq_ok_iff.mpr ⟨action, rfl, Or.inr ⟨dismisses, rfl⟩⟩
    | @help verb helps =>
        have noReview : lowercase verb ≠ "bom" := ne_of_mem_of_not_mem helps (by decide)
        have noQuote : lowercase verb ∉ ["quote", "q"] :=
          (by decide : ∀ word ∈ ["help", "h", "?"], word ∉ ["quote", "q"]) _ helps
        simp only [ofWords, List.contains_iff_mem, if_neg noReview, if_neg noQuote, if_pos helps]
        exact alone_eq_ok_iff.mpr ⟨rfl, rfl⟩
    | @quit verb quits =>
        have noReview : lowercase verb ≠ "bom" := ne_of_mem_of_not_mem quits (by decide)
        have noQuote : lowercase verb ∉ ["quote", "q"] :=
          (by decide : ∀ word ∈ ["quit", "exit"], word ∉ ["quote", "q"]) _ quits
        have noHelp : lowercase verb ∉ ["help", "h", "?"] :=
          (by decide : ∀ word ∈ ["quit", "exit"], word ∉ ["help", "h", "?"]) _ quits
        simp only [ofWords, List.contains_iff_mem, if_neg noReview, if_neg noQuote, if_neg noHelp,
          if_pos quits]
        exact alone_eq_ok_iff.mpr ⟨rfl, rfl⟩

/-! ## Marks -/

theorem isBlank_of_mem_mark {mark : List Char} {c : Char} (known : mark ∈ marks)
    (member : c ∈ mark) : isBlank c = false := by
  have visible : marks.all (fun mark => mark.all fun c => !isBlank c) = true := rfl
  simpa using List.all_eq_true.mp (List.all_eq_true.mp visible mark known) c member

/-- No mark is the beginning of another one. -/
theorem behindMark?_append {mark : List Char} (known : mark ∈ marks) (body : List Char) :
    behindMark? (mark ++ body) = some (trimStart isBlank body) := by
  simp only [marks, List.mem_cons, List.not_mem_nil, or_false] at known
  rcases known with rfl | rfl | rfl
  · rfl
  · rfl
  · rfl

/-- Blanks in front of a mark do not count. -/
theorem behindMark?_trimStart (line : List Char) :
    behindMark? (trimStart isBlank line) = behindMark? line := by
  have again : trimStart isBlank (trimStart isBlank line) = trimStart isBlank line :=
    List.dropWhile_idempotent isBlank line
  rw [behindMark?, behindMark?, again]

theorem exists_mark_of_behindMark? {line body : List Char} (found : behindMark? line = some body) :
    ∃ mark ∈ marks, ∃ rest, trimStart isBlank line = mark ++ rest := by
  obtain ⟨mark, known, taken⟩ := List.exists_of_findSome?_eq_some found
  split at taken
  · rename_i starts
    obtain ⟨rest, same⟩ := List.isPrefixOf_iff_prefix.mp starts
    exact ⟨mark, known, rest, same.symm⟩
  · cases taken

end ChatCommand

namespace ChatRequest

/-- A line is a mark and a text behind it, with blanks between them and around both. -/
def Marks (line : String) (rest : List Char) : Prop :=
  ∃ before mark between after,
    (∀ c ∈ before ++ between ++ after, isBlank c = true) ∧ mark ∈ ChatCommand.marks ∧
      line.toList = before ++ mark ++ between ++ rest ++ after

theorem Marks.behindMark? {line : String} {rest : List Char} (marks : Marks line rest) :
    ChatCommand.behindMark? (trim line.toList) = some (trim rest) := by
  obtain ⟨before, mark, between, after, blank, known, shape⟩ := marks
  simp only [List.forall_mem_append] at blank
  obtain ⟨⟨blankBefore, blankBetween⟩, blankAfter⟩ := blank
  have grouped : line.toList = before ++ (mark ++ (between ++ rest)) ++ after := by
    simp only [shape, List.append_assoc]
  have outer : trim line.toList = trim (mark ++ (between ++ rest)) := by
    rw [grouped, trim_append_blank blankBefore blankAfter]
  have nothing : ∀ c ∈ ([] : List Char), isBlank c = true := by rintro _ ⟨⟩
  have inner : trim (between ++ rest) = trim rest := by
    simpa using trim_append_blank blankBetween nothing rest
  rw [outer, trim, ← trimStart_trimEnd, ChatCommand.behindMark?_trimStart,
    trimEnd_append_of_kept fun _ member => ChatCommand.isBlank_of_mem_mark known member,
    ChatCommand.behindMark?_append known, trimStart_trimEnd, ← trim, inner]

/-- A line counts as a command where it carries a mark. -/
theorem isMarked_iff {line : String} : isMarked line = true ↔ ∃ rest, Marks line rest := by
  rw [isMarked, Option.isSome_iff_exists]
  constructor
  · rintro ⟨body, found⟩
    obtain ⟨mark, known, rest, starts⟩ := ChatCommand.exists_mark_of_behindMark? found
    obtain ⟨before, after, blankBefore, blankAfter, shape, -⟩ := trims_trim line.toList
    refine ⟨rest, before ++ (trim line.toList).takeWhile isBlank, mark, [], after, ?_, known, ?_⟩
    · simp only [List.forall_mem_append]
      exact ⟨⟨⟨blankBefore, fun _ member => List.mem_takeWhile_imp member⟩, by rintro _ ⟨⟩⟩,
        blankAfter⟩
    · have inner : trim line.toList = (trim line.toList).takeWhile isBlank ++ (mark ++ rest) := by
        rw [← starts, trimStart_append]
      rw [inner] at shape
      simpa only [List.append_assoc, List.append_nil] using shape
  · rintro ⟨rest, marks⟩
    exact ⟨trim rest, marks.behindMark?⟩

/-- What is read from a line, by the text behind its mark. -/
inductive ReadsAs (line : String) (rest : List Char) :
    Except ChatFault (Option ChatRequest) → Prop
  | request {words : List String} {command : ChatCommand}
      (quoted : CommandLine.words rest = .ok words) (spelled : ChatCommand.Spells words command) :
      ReadsAs line rest (.ok (some ⟨command, trimText line⟩))
  | unquoted {fault : CommandLine.WordFault}
      (ended : (rest.foldl CommandLine.Place.next .bare).fault? = some fault) :
      ReadsAs line rest (.error (.unreadable fault))
  | unspelled {words : List String} {fault : ChatFault}
      (quoted : CommandLine.words rest = .ok words)
      (nothing : ∀ command, ¬ ChatCommand.Spells words command) :
      ReadsAs line rest (.error fault)

theorem Marks.read_eq {line : String} {rest : List Char} (marks : Marks line rest) :
    read line =
      (ChatCommand.read (trim rest)).map fun command => some ⟨command, trimText line⟩ := by
  rw [read, marks.behindMark?]

theorem Marks.reads {line : String} {rest : List Char} (marks : Marks line rest) :
    ReadsAs line (trim rest) (read line) := by
  rw [marks.read_eq, ChatCommand.read]
  cases quoted : CommandLine.words (trim rest) with
  | error fault => exact .unquoted (CommandLine.words_eq_error_iff.mp quoted)
  | ok words =>
      dsimp only
      cases spelled : ChatCommand.ofWords words with
      | ok command => exact .request quoted (ChatCommand.ofWords_eq_ok_iff.mp spelled)
      | error fault =>
          refine .unspelled quoted fun command spells => ?_
          cases spelled.symm.trans (ChatCommand.ofWords_eq_ok_iff.mpr spells)

/-- The marks and the blanks around are interchangeable. -/
theorem Marks.read_same
    {line other : String} {rest : List Char} (marks : Marks line rest)
    (otherMarks : Marks other rest) :
    (read line).map (Option.map command) = (read other).map (Option.map command) := by
  rw [marks.read_eq, otherMarks.read_eq]
  cases ChatCommand.read (trim rest) <;> rfl

end ChatRequest

end QuoteDesk
