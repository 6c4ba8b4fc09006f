import QuoteDesk.Proofs.Settings.Layers
import QuoteDesk.Proofs.Settings.Wording

/-!
# Overrides by hand

A list of overrides gives every setting that it names the value of the last entry that
names it, and it is refused when some entry does not give a value of the right kind.  The
exceptions are those of the texts: a list goes through with another JSON value for a
mapping, and it fails with the reader's own fault where the reader gives up.
-/

namespace QuoteDesk

open Text

namespace Override

variable {source : String} {value : Value} {fault : Fault}

/-! ## Entries -/

/-- An entry with a name in front of its first equals sign and a text behind it. -/
def Parts (entry name source : String) : Prop :=
  '=' ∉ name.toList ∧ entry = name ++ "=" ++ source

/-- An entry that gives a setting a text. -/
def Names (entry : String) (setting : Setting) (source : String) : Prop :=
  ∃ name, Parts entry name source ∧ trimText name = setting.name

/-- An entry that gives a setting a value of its kind. -/
def Gives (entry : String) (given : Setting × Value) : Prop :=
  ∃ source, Names entry given.1 source ∧ Writes given.1.kind (trimText source) given.2

/-- An entry that gives a mapping another JSON value. -/
def Misgives (entry : String) (given : Setting × Value) : Prop :=
  ∃ source, Names entry given.1 source ∧ Strays given.1.kind (trimText source) given.2

/-- An entry on whose text the reader gives up. -/
def Overtaxes (entry : String) : Prop :=
  ∃ setting source, Names entry setting source ∧ TooDeep setting.kind (trimText source)

/-- An entry that is no override: it has no equals sign, an empty or unknown name, or a text
that writes no value of the kind of its setting. -/
inductive Unfit (entry : String) : Prop
  | noMark (absent : '=' ∉ entry.toList)
  | unnamed {name source : String} (parts : Parts entry name source) (empty : trimText name = "")
  | unknown {name source : String} (parts : Parts entry name source)
      (unknown : ∀ setting : Setting, setting.name ≠ trimText name)
  | unwritten {setting : Setting} {source : String} (names : Names entry setting source)
      (unwritten : ∀ value, ¬ Writes setting.kind (trimText source) value)

variable {entry name : String} {setting : Setting}

theorem parts_iff :
    Parts entry name source ↔
      '=' ∉ name.toList ∧ entry.toList = name.toList ++ '=' :: source.toList := by
  rw [Parts, ← String.toList_inj, String.toList_append, String.toList_append, List.append_assoc]
  rfl

theorem mark_of_parts (parts : Parts entry name source) : '=' ∈ entry.toList := by
  rw [(parts_iff.mp parts).2]
  exact List.mem_append_right _ List.mem_cons_self

theorem exists_parts (mark : '=' ∈ entry.toList) : ∃ name source, Parts entry name source := by
  obtain ⟨before, after, same, noMark⟩ := List.eq_append_cons_of_mem mark
  refine ⟨String.ofList before, String.ofList after, parts_iff.mpr ?_⟩
  rw [String.toList_ofList, String.toList_ofList]
  exact ⟨noMark, same⟩

theorem split?_of_parts (parts : Parts entry name source) : split? entry = some (name, source) := by
  obtain ⟨noMark, same⟩ := parts_iff.mp parts
  have before : ∀ c ∈ name.toList, (c != '=') = true := by
    intro c member
    rw [bne_iff_ne]
    rintro rfl
    exact noMark member
  unfold split?
  dsimp only
  rw [if_pos (List.contains_iff_mem.mpr (mark_of_parts parts)), same,
    List.takeWhile_append_of_pos before, List.dropWhile_append_of_pos before]
  simp

theorem split?_of_noMark (noMark : '=' ∉ entry.toList) : split? entry = none := by
  unfold split?
  exact if_neg (mt List.contains_iff_mem.mp noMark)

theorem Parts.unique
    {otherName otherSource : String} (parts : Parts entry name source)
    (otherParts : Parts entry otherName otherSource) :
    name = otherName ∧ source = otherSource := by
  have same := (split?_of_parts parts).symm.trans (split?_of_parts otherParts)
  cases same
  exact ⟨rfl, rfl⟩

theorem Names.unique
    {other : Setting} {otherSource : String} (names : Names entry setting source)
    (otherNames : Names entry other otherSource) : setting = other ∧ source = otherSource := by
  obtain ⟨name, parts, named⟩ := names
  obtain ⟨otherName, otherParts, otherNamed⟩ := otherNames
  obtain ⟨rfl, rfl⟩ := parts.unique otherParts
  exact ⟨Settings.name_eq_name_iff.mp (named.symm.trans otherNamed), rfl⟩

/-! ### Reading an entry -/

theorem name_ne_empty (setting : Setting) : setting.name ≠ "" := by
  cases setting <;> decide

theorem readEntry_of_names (names : Names entry setting source) :
    readEntry entry = (readValue setting.kind source).map (setting, ·) := by
  obtain ⟨name, parts, named⟩ := names
  have notEmpty : ¬ setting.name.isEmpty = true := by simpa using name_ne_empty setting
  unfold readEntry
  rw [split?_of_parts parts]
  dsimp only
  rw [named, if_neg notEmpty, Setting.ofName?_name]
  dsimp only
  cases readValue setting.kind source <;> rfl

theorem readEntry_of_stranger
    (parts : Parts entry name source) (stranger : Setting.ofName? (trimText name) = none) :
    ∃ message, readEntry entry = .error (.badValue message) := by
  unfold readEntry
  rw [split?_of_parts parts]
  dsimp only
  split_ifs with empty
  · exact ⟨_, rfl⟩
  · rw [stranger]
    exact ⟨_, rfl⟩

theorem readEntry_of_noMark (noMark : '=' ∉ entry.toList) :
    ∃ message, readEntry entry = .error (.badValue message) := by
  unfold readEntry
  rw [split?_of_noMark noMark]
  exact ⟨_, rfl⟩

/-- An entry gives a setting a text, or it does not name any setting. -/
theorem names_or_refused (entry : String) :
    (∃ setting source, Names entry setting source) ∨
      ∃ message, readEntry entry = .error (.badValue message) := by
  by_cases mark : '=' ∈ entry.toList
  · obtain ⟨name, source, parts⟩ := exists_parts mark
    cases known : Setting.ofName? (trimText name) with
    | none => exact .inr (readEntry_of_stranger parts known)
    | some setting =>
        have named := (Settings.ofName?_eq_some_iff.mp known).symm
        exact .inl ⟨setting, source, name, parts, named⟩
  · exact .inr (readEntry_of_noMark mark)

/-- An override is read where it gives a value to a setting, as it should or not. -/
theorem readEntry_eq_ok_iff {given : Setting × Value} :
    readEntry entry = .ok given ↔ Gives entry given ∨ Misgives entry given := by
  unfold Gives Misgives
  rw [← exists_or]
  simp only [← and_or_left, ← readValue_eq_ok_iff]
  constructor
  · intro read
    rcases names_or_refused entry with ⟨setting, source, names⟩ | ⟨message, refused⟩
    · rw [readEntry_of_names names] at read
      cases known : readValue setting.kind source with
      | error fault =>
          rw [known] at read
          cases read
      | ok value =>
          rw [known] at read
          cases read
          exact ⟨source, names, known⟩
    · cases refused.symm.trans read
  · rintro ⟨source, names, known⟩
    rw [readEntry_of_names names, known]
    rfl

theorem not_writes_of_strays {s : String} {other : Value} (strays : Strays kind s value) :
    ¬ Writes kind s other := by
  obtain ⟨rfl, some, json, noMapping⟩ := strays
  intro written
  cases written with
  | noMapping nothing => exact some nothing
  | emptyMapping => cases json
  | mapping _ found =>
      cases json.symm.trans found
      exact noMapping _ rfl

theorem unfit_iff : Unfit entry ↔ ∀ given, ¬ Gives entry given := by
  constructor
  · rintro unfit ⟨setting, value⟩ ⟨source, names, written⟩
    cases unfit with
    | noMark absent =>
        obtain ⟨name, parts, -⟩ := names
        exact absent (mark_of_parts parts)
    | unnamed parts empty =>
        obtain ⟨name, otherParts, named⟩ := names
        obtain ⟨rfl, -⟩ := parts.unique otherParts
        exact name_ne_empty setting (named.symm.trans empty)
    | unknown parts unknown =>
        obtain ⟨name, otherParts, named⟩ := names
        obtain ⟨rfl, -⟩ := parts.unique otherParts
        exact unknown setting named.symm
    | unwritten otherNames unwritten =>
        obtain ⟨rfl, rfl⟩ := names.unique otherNames
        exact unwritten value written
  · intro gives
    by_cases mark : '=' ∈ entry.toList
    · obtain ⟨name, source, parts⟩ := exists_parts mark
      cases known : Setting.ofName? (trimText name) with
      | none =>
          refine .unknown parts fun setting named => ?_
          cases known.symm.trans (Settings.ofName?_eq_some_iff.mpr named)
      | some setting =>
          have names : Names entry setting source :=
            ⟨name, parts, (Settings.ofName?_eq_some_iff.mp known).symm⟩
          exact .unwritten names fun value written =>
            gives (setting, value) ⟨source, names, written⟩
    · exact .noMark mark

/-! ## Lists of entries -/

theorem names_put (overrides : Overrides) (setting : Setting) (value : Value) :
    (put overrides setting value).map Prod.fst =
      if setting ∈ overrides.map Prod.fst then overrides.map Prod.fst
      else overrides.map Prod.fst ++ [setting] := by
  induction overrides with
  | nil => rfl
  | cons head rest inductionHypothesis =>
      obtain ⟨other, old⟩ := head
      rw [put, List.map_cons]
      by_cases same : other = setting
      · subst same
        rw [if_pos rfl, if_pos List.mem_cons_self]
        rfl
      · rw [if_neg same, List.map_cons, inductionHypothesis]
        simp only [List.mem_cons, Ne.symm same, false_or]
        split_ifs <;> rfl

theorem nodup_put
    {overrides : Overrides} (once : (overrides.map Prod.fst).Nodup) (setting : Setting)
    (value : Value) : ((put overrides setting value).map Prod.fst).Nodup := by
  rw [names_put]
  split_ifs with member
  · exact once
  · rw [← List.concat_eq_append]
    exact once.concat member

theorem mem_names_put_iff {overrides : Overrides} {other : Setting} :
    other ∈ (put overrides setting value).map Prod.fst ↔
      other = setting ∨ other ∈ overrides.map Prod.fst := by
  rw [names_put]
  split_ifs with member
  · refine (or_iff_right_of_imp ?_).symm
    rintro rfl
    exact member
  · rw [List.mem_append, List.mem_singleton, or_comm]

theorem mem_put_iff
    {overrides : Overrides} (once : (overrides.map Prod.fst).Nodup) {given : Setting × Value} :
    given ∈ put overrides setting value ↔
      given = (setting, value) ∨ given.1 ≠ setting ∧ given ∈ overrides := by
  induction overrides with
  | nil => simp [put]
  | cons head rest inductionHypothesis =>
      obtain ⟨other, old⟩ := head
      rw [List.map_cons, List.nodup_cons] at once
      rw [put]
      by_cases same : other = setting
      · subst same
        have elsewhere : given ∈ rest → given.1 ≠ other := by
          intro member same
          have named : given.1 ∈ rest.map Prod.fst := List.mem_map_of_mem member
          exact once.1 (same ▸ named)
        rw [if_pos rfl, List.mem_cons, List.mem_cons]
        refine or_congr_right ⟨fun member => ⟨elsewhere member, .inr member⟩, ?_⟩
        rintro ⟨different, rfl | member⟩
        · exact absurd rfl different
        · exact member
      · rw [if_neg same, List.mem_cons, List.mem_cons, inductionHypothesis once.2]
        constructor
        · rintro (rfl | here | ⟨different, member⟩)
          · exact .inr ⟨same, .inl rfl⟩
          · exact .inl here
          · exact .inr ⟨different, .inr member⟩
        · rintro (here | ⟨different, rfl | member⟩)
          · exact .inr (.inl here)
          · exact .inl rfl
          · exact .inr (.inr ⟨different, member⟩)

/-- The overrides hold exactly the settings that some entry names, each one once and with the
value that is taken from the last entry naming it. -/
structure Gathers (takes : String → Setting × Value → Prop) (entries : List String)
    (overrides : Overrides) : Prop where
  once : (overrides.map Prod.fst).Nodup
  named : ∀ setting, setting ∈ overrides.map Prod.fst ↔
    ∃ entry ∈ entries, ∃ source, Names entry setting source
  lasts : ∀ given, given ∈ overrides ↔
    ∃ front entry back, entries = front ++ entry :: back ∧ takes entry given ∧
      ∀ later ∈ back, ∀ source, ¬ Names later given.1 source

/-- What is read from an entry. -/
def Takes (entry : String) (given : Setting × Value) : Prop :=
  readEntry entry = .ok given

theorem Takes.names {given : Setting × Value} (taken : Takes entry given) :
    ∃ source, Names entry given.1 source := by
  rcases readEntry_eq_ok_iff.mp taken with ⟨source, names, -⟩ | ⟨source, names, -⟩
  · exact ⟨source, names⟩
  · exact ⟨source, names⟩

theorem Takes.eq_of_names
    {given : Setting × Value} (taken : Takes entry given) (names : Names entry setting source) :
    setting = given.1 := by
  obtain ⟨_, otherNames⟩ := taken.names
  exact (names.unique otherNames).1

theorem gathers_nil : Gathers Takes [] [] where
  once := List.nodup_nil
  named setting := by simp
  lasts given := by simp

/-- One more entry puts its value in. -/
theorem Gathers.snoc
    {entries : List String} {overrides : Overrides} {given : Setting × Value}
    (gathers : Gathers Takes entries overrides) (taken : Takes entry given) :
    Gathers Takes (entries ++ [entry]) (put overrides given.1 given.2) where
  once := nodup_put gathers.once _ _
  named other := by
    obtain ⟨source, names⟩ := taken.names
    have last : (∃ source, Names entry other source) ↔ other = given.1 := by
      refine ⟨fun ⟨_, otherNames⟩ => taken.eq_of_names otherNames, ?_⟩
      rintro rfl
      exact ⟨source, names⟩
    rw [mem_names_put_iff, gathers.named, or_comm, ← last]
    simp only [List.mem_append, List.mem_singleton, or_and_right, exists_or, exists_eq_left]
  lasts other := by
    rw [mem_put_iff gathers.once, gathers.lasts]
    constructor
    · rintro (rfl | ⟨different, front, earlier, back, rfl, took, silent⟩)
      · exact ⟨entries, entry, [], rfl, taken, nofun⟩
      · refine ⟨front, earlier, back ++ [entry], ?_, took, ?_⟩
        · rw [List.append_assoc, List.cons_append]
        · rw [List.forall_mem_append, List.forall_mem_singleton]
          exact ⟨silent, fun source names => different (taken.eq_of_names names)⟩
    · rintro ⟨front, earlier, back, parts, took, silent⟩
      -- Behind the entry nothing stands, and it is the new one, or the new one stands last.
      rcases List.eq_nil_or_concat back with rfl | ⟨middle, last, rfl⟩
      · obtain ⟨rfl, same⟩ := List.append_inj' parts rfl
        cases same
        exact .inl (Except.ok.inj (took.symm.trans taken))
      · rw [List.concat_eq_append] at parts silent
        rw [← List.cons_append, ← List.append_assoc] at parts
        obtain ⟨rfl, same⟩ := List.append_inj' parts rfl
        cases same
        rw [List.forall_mem_append, List.forall_mem_singleton] at silent
        refine .inr ⟨fun same => ?_, front, earlier, middle, rfl, took, silent.1⟩
        obtain ⟨source, names⟩ := taken.names
        exact silent.2 source (same ▸ names)

/-! ### The run -/

theorem readAll_snoc (entries : List String) (entry : String) :
    readAll (entries ++ [entry]) = (do
      let overrides ← readAll entries
      let given ← readEntry entry
      return put overrides given.1 given.2) := by
  rw [readAll, List.foldlM_append]
  change readAll entries >>= _ = _
  cases readAll entries with
  | error fault => rfl
  | ok overrides =>
      cases taken : readEntry entry with
      | error fault =>
          change (readEntry entry >>= _) >>= _ = _
          rw [taken]
          rfl
      | ok given =>
          change (readEntry entry >>= _) >>= _ = _
          rw [taken]
          rfl

theorem readAll_of_taken
    {entries : List String} (taken : ∀ entry ∈ entries, ∃ given, Takes entry given) :
    ∃ overrides, readAll entries = .ok overrides ∧ Gathers Takes entries overrides := by
  induction entries using List.reverseRecOn with
  | nil => exact ⟨[], rfl, gathers_nil⟩
  | append_singleton earlier entry inductionHypothesis =>
      rw [List.forall_mem_append, List.forall_mem_singleton] at taken
      obtain ⟨before, given, takes⟩ := taken
      obtain ⟨overrides, read, gathers⟩ := inductionHypothesis before
      refine ⟨put overrides given.1 given.2, ?_, gathers.snoc takes⟩
      rw [readAll_snoc, read, takes]
      rfl

theorem readAll_of_refused
    {front : List String} (taken : ∀ entry ∈ front, ∃ given, Takes entry given)
    (refused : readEntry entry = .error fault) (back : List String) :
    readAll (front ++ entry :: back) = .error fault := by
  induction back using List.reverseRecOn with
  | nil =>
      obtain ⟨overrides, read, -⟩ := readAll_of_taken taken
      rw [readAll_snoc, read, refused]
      rfl
  | append_singleton back last inductionHypothesis =>
      rw [← List.cons_append, ← List.append_assoc, readAll_snoc, inductionHypothesis]
      rfl

/-- All entries of a list are taken, or one of them is the first that is refused. -/
theorem taken_or_refused (entries : List String) :
    (∀ entry ∈ entries, ∃ given, Takes entry given) ∨
      ∃ front entry back fault, entries = front ++ entry :: back ∧
        (∀ earlier ∈ front, ∃ given, Takes earlier given) ∧ readEntry entry = .error fault := by
  induction entries with
  | nil => exact .inl nofun
  | cons entry rest inductionHypothesis =>
      cases read : readEntry entry with
      | error fault => exact .inr ⟨[], entry, rest, fault, rfl, nofun, read⟩
      | ok given =>
          rcases inductionHypothesis with taken | ⟨front, other, back, fault, rfl, taken, refused⟩
          · exact .inl (List.forall_mem_cons.mpr ⟨⟨given, read⟩, taken⟩)
          · exact .inr ⟨entry :: front, other, back, fault, rfl,
              List.forall_mem_cons.mpr ⟨⟨given, read⟩, taken⟩, refused⟩

theorem Gathers.congr
    {takes others : String → Setting × Value → Prop} {entries : List String}
    {overrides : Overrides} (gathers : Gathers takes entries overrides)
    (same : ∀ entry ∈ entries, ∀ given, takes entry given ↔ others entry given) :
    Gathers others entries overrides where
  once := gathers.once
  named := gathers.named
  lasts given := by
    rw [gathers.lasts]
    refine exists_congr fun front => exists_congr fun entry => exists_congr fun back => ?_
    refine and_congr_right ?_
    rintro rfl
    rw [same entry (List.mem_append_right _ List.mem_cons_self)]

/-! ## The contract -/

/-- What reading a list of entries should come to: overrides with values of the right kinds if
all entries are fit, and a refusal if one is not. -/
inductive Settles (entries : List String) : Except Fault Overrides → Prop
  | gathered {overrides : Overrides} (fit : ∀ entry ∈ entries, ¬ Unfit entry)
      (gathers : Gathers Gives entries overrides)
      (holds : ∀ given ∈ overrides, given.1.kind.Holds given.2) : Settles entries (.ok overrides)
  | refused {fault : Fault} (unfit : ∃ entry ∈ entries, Unfit entry)
      (kind : fault.kind = "ValueError") : Settles entries (.error fault)

/-- An entry that is taken though it is not fit. -/
def Astray (entry : String) : Prop :=
  ∃ given, Misgives entry given

/-- A list on which the reading leaves its contract: it goes through with an entry that is not
fit, or it gets as far as an entry on which the reader gives up. -/
inductive Leaves (entries : List String) : Prop
  | through (taken : ∀ entry ∈ entries, Unfit entry → Astray entry)
      (astray : ∃ entry ∈ entries, Astray entry)
  | upTo {front back : List String} {entry : String} (parts : entries = front ++ entry :: back)
      (taken : ∀ earlier ∈ front, Unfit earlier → Astray earlier) (overtaxes : Overtaxes entry)

theorem unfit_of_astray (astray : Astray entry) : Unfit entry := by
  obtain ⟨given, source, names, strays⟩ := astray
  exact .unwritten names fun value => not_writes_of_strays strays

theorem takes_iff_of_not_astray {given : Setting × Value} (fit : ¬ Astray entry) :
    Takes entry given ↔ Gives entry given := by
  rw [Takes, readEntry_eq_ok_iff]
  exact or_iff_left fun misgives => fit ⟨given, misgives⟩

theorem exists_takes_iff : (∃ given, Takes entry given) ↔ (Unfit entry → Astray entry) := by
  simp only [Takes, readEntry_eq_ok_iff, exists_or]
  rw [unfit_iff, ← not_exists]
  exact or_iff_not_imp_left

theorem readEntry_of_overtaxes (overtaxes : Overtaxes entry) :
    readEntry entry = .error (.json .tooDeep) := by
  obtain ⟨setting, source, names, deep⟩ := overtaxes
  rw [readEntry_of_names names, readValue_of_tooDeep deep]
  rfl

theorem readEntry_eq_error (refused : readEntry entry = .error fault) :
    Unfit entry ∧ (fault.kind = "ValueError" ∨ Overtaxes entry) := by
  constructor
  · refine unfit_iff.mpr fun given gives => ?_
    cases refused.symm.trans (readEntry_eq_ok_iff.mpr (.inl gives))
  · rcases names_or_refused entry with ⟨setting, source, names⟩ | ⟨message, known⟩
    · rw [readEntry_of_names names] at refused
      cases known : readValue setting.kind source with
      | ok value =>
          rw [known] at refused
          cases refused
      | error other =>
          rw [known] at refused
          cases refused
          exact (readValue_eq_error known).imp_right fun deep => ⟨setting, source, names, deep.1⟩
    · cases refused.symm.trans known
      exact .inl rfl

section Runs

variable {entries : List String}

theorem readAll_through (taken : ∀ entry ∈ entries, Unfit entry → Astray entry) :
    ∃ overrides, readAll entries = .ok overrides ∧ Gathers Takes entries overrides :=
  readAll_of_taken fun entry member => exists_takes_iff.mpr (taken entry member)

/-- Brackets that are nested too deeply end the reading of overrides. -/
theorem readAll_upTo
    {front back : List String} (taken : ∀ earlier ∈ front, Unfit earlier → Astray earlier)
    (overtaxes : Overtaxes entry) :
    readAll (front ++ entry :: back) = .error (.json .tooDeep) :=
  readAll_of_refused (fun earlier member => exists_takes_iff.mpr (taken earlier member))
    (readEntry_of_overtaxes overtaxes) back

theorem not_settles_of_leaves (leaves : Leaves entries) : ¬ Settles entries (readAll entries) := by
  intro settles
  cases leaves with
  | through taken astray =>
      obtain ⟨overrides, read, -⟩ := readAll_through taken
      obtain ⟨entry, member, astray⟩ := astray
      rw [read] at settles
      cases settles with
      | gathered fit gathers holds => exact fit entry member (unfit_of_astray astray)
  | upTo parts taken overtaxes =>
      rw [parts, readAll_upTo taken overtaxes] at settles
      cases settles with
      | refused unfit kind => exact absurd kind (by decide)

theorem settles_of_stays (stays : ¬ Leaves entries) : Settles entries (readAll entries) := by
  rcases taken_or_refused entries with taken | ⟨front, entry, back, fault, rfl, taken, refused⟩
  · have through : ∀ entry ∈ entries, Unfit entry → Astray entry := fun entry member =>
      exists_takes_iff.mp (taken entry member)
    have straight : ∀ entry ∈ entries, ¬ Astray entry := fun entry member astray =>
      stays (.through through ⟨entry, member, astray⟩)
    obtain ⟨overrides, read, gathers⟩ := readAll_through through
    have gives : Gathers Gives entries overrides := gathers.congr fun entry member given =>
      takes_iff_of_not_astray (straight entry member)
    rw [read]
    refine .gathered (fun entry member unfit => straight entry member (through entry member unfit))
      gives fun given member => ?_
    obtain ⟨_, _, _, _, ⟨_, _, written⟩, _⟩ := (gives.lasts given).mp member
    exact written.holds
  · obtain ⟨unfit, valueError | overtaxes⟩ := readEntry_eq_error refused
    · rw [readAll_of_refused taken refused back]
      exact .refused ⟨entry, List.mem_append_right _ List.mem_cons_self, unfit⟩ valueError
    · exact absurd (.upTo rfl (fun earlier member => exists_takes_iff.mp (taken earlier member))
        overtaxes) stays

end Runs

/-- Reading a list of entries keeps its contract exactly if it does not go through with an entry
astray or get as far as one on which the reader gives up.  In the first case the values astray
are among the overrides, in the second case the reader's own fault is the outcome. -/
theorem readAll_settles_iff (entries : List String) :
    (Settles entries (readAll entries) ↔ ¬ Leaves entries) ∧
      ((∀ entry ∈ entries, Unfit entry → Astray entry) →
        ∃ overrides, readAll entries = .ok overrides ∧
          Gathers (fun entry given => Gives entry given ∨ Misgives entry given) entries
            overrides) ∧
      ∀ front entry back, entries = front ++ entry :: back →
        (∀ earlier ∈ front, Unfit earlier → Astray earlier) → Overtaxes entry →
          readAll entries = .error (.json .tooDeep) := by
  refine ⟨⟨fun settles leaves => not_settles_of_leaves leaves settles, settles_of_stays⟩, ?_, ?_⟩
  · intro taken
    obtain ⟨overrides, read, gathers⟩ := readAll_through taken
    exact ⟨overrides, read, gathers.congr fun entry _ given => readEntry_eq_ok_iff⟩
  · rintro front entry back rfl taken overtaxes
    exact readAll_upTo taken overtaxes

/-- A list stands where a mapping should. -/
theorem not_every_list_settles : ¬ ∀ entries, Settles entries (readAll entries) := by
  intro settles
  have read : readAll ["default_headers=[1]"] = .ok [(.defaultHeaders, .list [.int 1])] := rfl
  have settled := settles ["default_headers=[1]"]
  rw [read] at settled
  cases settled with
  | gathered fit gathers holds =>
      cases holds _ List.mem_cons_self

end Override

end QuoteDesk
