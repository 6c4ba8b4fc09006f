import QuoteDesk.Proofs.File.Places
import QuoteDesk.Settings.Store

/-!
# Files beside a file

A store has three files in one directory: the settings, the key of its vault and a draft,
which is written first for either of them.  Their names differ in the endings.
-/

namespace QuoteDesk

namespace Path

variable {path directory : Path} {name suffix : List Char}

/-! ## Endings -/

theorem stem_append_suffix
    (named : name ≠ []) (some : suffix ≠ []) (noDot : '.' ∉ suffix) :
    stem (name ++ '.' :: suffix) = name := by
  have letters : ∀ c ∈ suffix.reverse, (c != '.') = true := by
    intro c member
    rw [bne_iff_ne]
    rintro rfl
    exact noDot (List.mem_reverse.mp member)
  have reversed : (name ++ '.' :: suffix).reverse = suffix.reverse ++ '.' :: name.reverse := by
    simp
  have behind : ('.' :: name.reverse).takeWhile (· != '.') = [] := rfl
  have before : ('.' :: name.reverse).dropWhile (· != '.') = '.' :: name.reverse := rfl
  unfold stem
  dsimp only
  rw [reversed, List.takeWhile_append_of_pos letters, List.dropWhile_append_of_pos letters,
    behind, before, List.append_nil, List.drop_one, List.tail_cons, List.reverse_reverse, if_neg]
  simp [named, some]

theorem stem_ne_nil (named : name ≠ []) : stem name ≠ [] := by
  unfold stem
  dsimp only
  split
  · exact named
  · next ended =>
      rw [Bool.or_eq_true, not_or, List.isEmpty_iff, List.isEmpty_iff] at ended
      exact mt List.reverse_eq_nil_iff.mp ended.2

theorem name_child (directory : Path) (name : String) : (directory.child name).name = name := by
  rw [Path.name, child, List.getLast?_concat, Option.getD_some]

theorem parent_child (directory : Path) (name : String) :
    (directory.child name).parent = directory := by
  rw [parent, child, List.dropLast_concat]

theorem Drafted.parent_eq
    {name draft : String} (drafted : path.Drafted directory name draft) :
    path.parent = directory := by
  rw [drafted.path_eq, parent_child]

theorem eq_child (named : path.name ≠ "") : path = path.parent.child path.name := by
  obtain ⟨slashes, parts⟩ := path
  rcases List.eq_nil_or_concat parts with rfl | ⟨before, last, rfl⟩
  · exact absurd rfl named
  · rw [List.concat_eq_append]
    change _ = (⟨slashes, (before ++ [last]).dropLast⟩ : Path).child _
    rw [List.dropLast_concat]
    exact congrArg (fun last => (⟨slashes, before ++ [last]⟩ : Path))
      (name_child ⟨slashes, before⟩ last).symm

theorem withSuffix_eq (named : path.name ≠ "") (suffix : String) :
    path.withSuffix suffix =
      .ok (path.parent.child (String.ofList (stem path.name.toList) ++ suffix)) := by
  rw [withSuffix, if_neg (by rwa [String.isEmpty_iff])]

theorem named_of_withSuffix
    {other : Path} {suffix : String} (made : path.withSuffix suffix = .ok other) :
    path.name ≠ "" := by
  intro unnamed
  rw [withSuffix, if_pos (by rw [unnamed]; rfl)] at made
  cases made

/-- Of two endings, one after the other, the second stands. -/
theorem withSuffix_of_withSuffix
    {other : Path} {ending : String} (made : path.withSuffix ending = .ok other)
    (letters : ending.toList = '.' :: suffix) (some : suffix ≠ []) (noDot : '.' ∉ suffix)
    (last : String) : other.withSuffix last = path.withSuffix last := by
  have named := named_of_withSuffix made
  have nameLetters : path.name.toList ≠ [] := mt String.toList_eq_nil_iff.mp named
  rw [withSuffix_eq named] at made ⊢
  cases made
  have again :
      stem (String.ofList (stem path.name.toList) ++ ending).toList = stem path.name.toList := by
    rw [String.toList_append, String.toList_ofList, letters]
    exact stem_append_suffix (stem_ne_nil nameLetters) some noDot
  rw [withSuffix_eq, name_child, parent_child, again]
  rw [name_child]
  intro empty
  have none := congrArg String.toList empty
  rw [String.toList_append, letters] at none
  simp at none

/-- The name of a file does not lead up, and the file is neither the key nor the draft that
lie beside it. -/
structure Apart (path : Path) : Prop where
  down : path.name ≠ ".."
  key : path.withSuffix ".key" ≠ .ok path
  draft : path.withSuffix ".tmp" ≠ .ok path

theorem apart_of_name (named : path.name = "settings.json") : path.Apart := by
  have nonempty : path.name ≠ "" := by
    rw [named]
    decide
  have otherEnding : ∀ {suffix : String},
      String.ofList (stem "settings.json".toList) ++ suffix ≠ "settings.json" →
        path.withSuffix suffix ≠ .ok path := by
    intro suffix different same
    rw [withSuffix_eq nonempty, named] at same
    have names := congrArg Path.name (Except.ok.inj same)
    rw [name_child, named] at names
    exact different names
  exact ⟨by rw [named]; decide, otherEnding (by decide +kernel), otherEnding (by decide +kernel)⟩

end Path

namespace SettingsStore

variable {path : Path} {store : SettingsStore}

/-- The settings of a store, its key and the draft of both are three files of a directory. -/
structure Sited (store : SettingsStore) (directory : Path) (name keyName draft : String) :
    Prop where
  settings : store.path.Drafted directory name draft
  key : store.vault.keyPath.Drafted directory keyName draft
  distinct : name ≠ keyName

theorem path_of_at? (made : at? path = .ok store) : store.path = path := by
  unfold at? at made
  obtain ⟨keyPath, -, same⟩ := exists_of_bind_eq_ok made
  cases same
  rfl

/-- The file, the key and the draft of a store lie side by side in one directory. -/
theorem exists_sited (made : at? path = .ok store) (apart : path.Apart) :
    ∃ name keyName draft, store.Sited path.parent name keyName draft := by
  unfold at? at made
  obtain ⟨keyPath, keyMade, same⟩ := exists_of_bind_eq_ok made
  cases same
  have named := Path.named_of_withSuffix keyMade
  have pathIs := Path.eq_child named
  have keyDraft := Path.withSuffix_of_withSuffix keyMade rfl (by decide) (by decide) ".tmp"
  obtain ⟨down, notKey, notDraft⟩ := apart
  let stem := String.ofList (Path.stem path.name.toList)
  rw [Path.withSuffix_eq named] at keyMade keyDraft notKey notDraft
  cases keyMade
  have longer : ∀ {suffix : String}, suffix.toList.length = 4 → stem ++ suffix ≠ ".." := by
    intro suffix size same
    have sizes := congrArg (List.length ∘ String.toList) same
    simp only [Function.comp_apply, String.toList_append, List.length_append, size] at sizes
    have two : "..".toList.length = 2 := rfl
    omega
  have apartFrom : ∀ {suffix : String},
      (.ok (path.parent.child (stem ++ suffix)) : Except Fault Path) ≠ .ok path →
        path.name ≠ stem ++ suffix := by
    intro suffix other same
    rw [← same, ← pathIs] at other
    exact other rfl
  have endings : stem ++ ".key" ≠ stem ++ ".tmp" := by
    intro same
    have letters := congrArg String.toList same
    simp at letters
  exact ⟨path.name, stem ++ ".key", stem ++ ".tmp",
    ⟨pathIs, Path.withSuffix_eq named _, down, longer rfl, apartFrom notDraft⟩,
    ⟨rfl, keyDraft, longer rfl, longer rfl, endings⟩, apartFrom notKey⟩

end SettingsStore

end QuoteDesk
