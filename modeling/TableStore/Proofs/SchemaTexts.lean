import Mathlib.Data.List.Forall2
import Mathlib.Data.List.TakeWhile
import TableStore.Schema.Parser

/-!
# What the text of a schema says

A text is cut at its commas.  Each part gives a column: a name before its first colon and a
word for a type behind it, or such a word alone, with blanks around them.  A text is a schema
exactly if every part gives a column, and else the first part that gives none is at fault.
So columns are read back from all texts in which they can be written.
-/

set_option autoImplicit false

namespace TableStore

/-! ## Blanks around a text -/

namespace Text

def Blank (text : List Char) : Prop := ∀ c ∈ text, isBlank c = true

structure Solid (text : List Char) : Prop where
  first : ∀ c ∈ text.head?, isBlank c = false
  last : ∀ c ∈ text.getLast?, isBlank c = false

def Padded (core text : List Char) : Prop :=
  ∃ front behind, Blank front ∧ Blank behind ∧ text = front ++ core ++ behind

structure Trims (text core : List Char) : Prop where
  padded : Padded core text
  solid : Solid core

variable {text core front : List Char}

theorem dropBlanks_append (blank : Blank front) (text : List Char) :
    dropBlanks (front ++ text) = dropBlanks text :=
  List.dropWhile_append_of_pos blank

theorem dropBlanks_of_first (first : ∀ c ∈ text.head?, isBlank c = false) :
    dropBlanks text = text := by
  cases text with
  | nil => rfl
  | cons c others => exact dropBlanks_of_head (first c rfl)

theorem dropBlanks_append_cons (front : List Char) {c : Char} (solid : isBlank c = false)
    (behind : List Char) :
    dropBlanks (front ++ c :: behind) = dropBlanks front ++ c :: behind := by
  induction front with
  | nil => exact dropBlanks_of_head solid
  | cons first others ih =>
      cases blank : isBlank first with
      | true => simpa [dropBlanks, blank] using ih
      | false => simp [dropBlanks, blank]

theorem exists_blank_front (text : List Char) :
    ∃ front, Blank front ∧ text = front ++ dropBlanks text :=
  ⟨text.takeWhile isBlank, fun _ inside => List.mem_takeWhile_imp inside,
    List.takeWhile_append_dropWhile.symm⟩

theorem first_dropBlanks (text : List Char) :
    ∀ c ∈ (dropBlanks text).head?, isBlank c = false := by
  intro c start
  obtain ⟨rest, same⟩ := List.head?_eq_some_iff.mp start
  exact head_dropBlanks same

theorem Blank.reverse (blank : Blank text) : Blank text.reverse :=
  fun c inside => blank c (List.mem_reverse.mp inside)

theorem Blank.not_mem (blank : Blank text) {c : Char} (solid : isBlank c = false) : c ∉ text := by
  intro inside
  rw [blank c inside] at solid
  cases solid

theorem trims_trim (text : List Char) : Trims text (trim text) := by
  obtain ⟨front, frontBlank, whole⟩ := exists_blank_front text
  obtain ⟨behind, behindBlank, rest⟩ := exists_blank_front (dropBlanks text).reverse
  have cut : dropBlanks text = trim text ++ behind.reverse := by
    rw [List.reverse_eq_iff, List.reverse_append] at rest
    exact rest
  refine ⟨⟨front, behind.reverse, frontBlank, behindBlank.reverse, ?_⟩, ?_, ?_⟩
  · rw [List.append_assoc, ← cut]
    exact whole
  · intro c start
    refine first_dropBlanks text c ?_
    rw [cut, List.head?_append, Option.mem_def.mp start]
    rfl
  · rw [trim, List.getLast?_reverse]
    exact first_dropBlanks _

theorem Trims.trim_eq (trims : Trims text core) : trim text = core := by
  obtain ⟨⟨front, behind, frontBlank, behindBlank, rfl⟩, first, last⟩ := trims
  have back : dropBlanks (core ++ behind).reverse = core.reverse := by
    rw [List.reverse_append, dropBlanks_append behindBlank.reverse]
    exact dropBlanks_of_first (by rwa [List.head?_reverse])
  rw [trim, List.append_assoc, dropBlanks_append frontBlank]
  cases core with
  | nil =>
      have nothing : dropBlanks behind = [] := List.dropWhile_eq_nil_iff.mpr behindBlank
      rw [List.nil_append, nothing]
      rfl
  | cons c others =>
      rw [@dropBlanks_of_first (c :: others ++ behind) first, back, List.reverse_reverse]

theorem trim_eq_iff : trim text = core ↔ Trims text core :=
  ⟨fun same => same ▸ trims_trim text, Trims.trim_eq⟩

theorem Padded.subset (padded : Padded core text) : core ⊆ text := by
  obtain ⟨front, behind, -, -, rfl⟩ := padded
  exact fun c inside => List.mem_append_left _ (List.mem_append_right _ inside)

theorem Padded.not_mem (padded : Padded core text) {c : Char} (solid : isBlank c = false)
    (free : c ∉ core) : c ∉ text := by
  obtain ⟨front, behind, frontBlank, behindBlank, rfl⟩ := padded
  simp only [List.mem_append, frontBlank.not_mem solid, behindBlank.not_mem solid, free, or_self,
    not_false_eq_true]

theorem trim_eq_nil_iff : trim text = [] ↔ Blank text := by
  constructor
  · intro nothing
    obtain ⟨⟨front, behind, frontBlank, behindBlank, rfl⟩, -⟩ := trim_eq_iff.mp nothing
    intro c inside
    rw [List.append_nil, List.mem_append] at inside
    exact inside.elim (frontBlank c) (behindBlank c)
  · intro blank
    exact trim_eq_iff.mpr ⟨⟨text, [], blank, nofun, by simp⟩, nofun, nofun⟩

/-- Blanks are taken off the two ends one after the other. -/
theorem trim_append_cons (front : List Char) {c : Char} (solid : isBlank c = false)
    (behind : List Char) :
    trim (front ++ c :: behind) =
      dropBlanks front ++ c :: (dropBlanks behind.reverse).reverse := by
  rw [trim, dropBlanks_append_cons front solid, List.reverse_append, List.reverse_cons,
    List.append_assoc, List.singleton_append, dropBlanks_append_cons _ solid]
  simp

theorem trim_dropBlanks (text : List Char) : trim (dropBlanks text) = trim text := by
  rw [trim, dropBlanks_of_first (first_dropBlanks text)]
  rfl

theorem trim_dropBlanks_reverse (text : List Char) :
    trim (dropBlanks text.reverse).reverse = trim text := by
  obtain ⟨behind, blank, same⟩ := exists_blank_front text.reverse
  rw [List.reverse_eq_iff, List.reverse_append] at same
  obtain ⟨⟨front, rest, frontBlank, restBlank, cut⟩, solid⟩ :=
    trims_trim (dropBlanks text.reverse).reverse
  refine (trim_eq_iff.mpr ⟨⟨front, rest ++ behind.reverse, frontBlank, ?_, ?_⟩, solid⟩).symm
  · intro c inside
    exact (List.mem_append.mp inside).elim (restBlank c) (blank.reverse c)
  · rw [← List.append_assoc, ← cut]
    exact same

end Text

namespace ColumnType

def spellings : ColumnType → List String
  | .int => ["int", "int32"]
  | .text => ["text", "string"]

end ColumnType

namespace Schema

open Text

/-! ## Parts of a text -/

def parts (text : String) : List (List Char × Nat) := (text.toList.splitOn ',').zipIdx

/-- The name of a column and the word for its type in a part: what stands before and behind
the first colon, or a name by position and the whole part if there is no colon. -/
inductive Divides (position : Nat) : List Char → String → List Char → Prop
  | named {front behind name word : List Char} (first : ':' ∉ front) (own : Trims front name)
      (type : Trims behind word) :
      Divides position (front ++ ':' :: behind) (String.ofList name) word
  | unnamed {part word : List Char} (alone : ':' ∉ part) (type : Trims part word) :
      Divides position part (defaultName position) word

/-- A word stands for a type, in whatever case its letters are. -/
def Spells (word : List Char) (type : ColumnType) : Prop :=
  ∃ spelling ∈ type.spellings, word.map Char.toLower = spelling.toList

def Defines (part : List Char × Nat) (column : Column) : Prop :=
  ∃ word, Divides part.2 part.1 column.name word ∧ Spells word column.type

/-- A part is more than blanks, and its word stands for a type. -/
def Legible (part : List Char × Nat) : Prop :=
  ¬ Blank part.1 ∧ ∃ name word type, Divides part.2 part.1 name word ∧ Spells word type

inductive Offends (part : List Char × Nat) : SchemaFault → Prop
  | empty (blank : Blank part.1) : Offends part (.emptyColumn part.2)
  | unknown {name : String} {word : List Char} (solid : ¬ Blank part.1)
      (divides : Divides part.2 part.1 name word) (other : ∀ type, ¬ Spells word type) :
      Offends part (.unknownType (String.ofList (word.map Char.toLower)))

def FailsAtFirst (parts : List (List Char × Nat)) (fault : SchemaFault) : Prop :=
  ∃ before part behind, parts = before ++ part :: behind ∧
    (∀ earlier ∈ before, Legible earlier) ∧ Offends part fault

variable {text : List Char} {part : List Char × Nat} {column : Column} {word : List Char}
  {type : ColumnType} {name : String} {position : Nat} {fault : SchemaFault}

theorem pieces_eq_splitOn (mark : Char) (text : List Char) :
    pieces mark text = text.splitOn mark := by
  induction text with
  | nil => rfl
  | cons c text ih =>
      rw [pieces, ih, List.splitOn_eq_splitOnP, List.splitOn_eq_splitOnP,
        List.splitOnP_cons_eq_if_modifyHead]
      cases cut : List.splitOnP (· == mark) text with
      | nil => exact absurd cut (List.splitOnP_ne_nil _ text)
      | cons piece others => simp only [beq_iff_eq, List.modifyHead_cons]

/-! ## Words for types -/

theorem typeOfWord?_eq_some_iff :
    typeOfWord? word = some type ↔ ∃ spelling ∈ type.spellings, word = spelling.toList := by
  constructor
  · intro named
    simp only [typeOfWord?] at named
    split at named
    · next int =>
        cases named
        simpa [ColumnType.spellings] using int
    · split at named
      · next text =>
          cases named
          simpa [ColumnType.spellings] using text
      · cases named
  · rintro ⟨spelling, listed, rfl⟩
    cases type with
    | int =>
        have named : spelling = "int" ∨ spelling = "int32" := by
          simpa [ColumnType.spellings] using listed
        rcases named with rfl | rfl <;> rfl
    | text =>
        have named : spelling = "text" ∨ spelling = "string" := by
          simpa [ColumnType.spellings] using listed
        rcases named with rfl | rfl <;> rfl

theorem toLower_of_isBlank {c : Char} (blank : isBlank c = true) : c.toLower = c := by
  refine dif_neg ?_
  rintro ⟨low, high⟩
  have atLeast : 65 ≤ c.toNat := low
  have atMost : c.toNat ≤ 90 := high
  simp only [isBlank, Bool.or_eq_true, Bool.and_eq_true, decide_eq_true_eq, beq_iff_eq] at blank
  omega

theorem letters_of_spelling (type : ColumnType) :
    ∀ spelling ∈ type.spellings, spelling.toList ≠ [] ∧
      ∀ c ∈ spelling.toList, isBlank c = false ∧ c ≠ ',' ∧ c ≠ ':' := by
  cases type <;> simp [ColumnType.spellings, isBlank]

theorem Spells.ne_nil (spells : Spells word type) : word ≠ [] := by
  obtain ⟨spelling, listed, same⟩ := spells
  rintro rfl
  exact (letters_of_spelling type spelling listed).1 same.symm

theorem Spells.letters (spells : Spells word type) {c : Char} (inside : c ∈ word) :
    isBlank c = false ∧ c ≠ ',' ∧ c ≠ ':' := by
  obtain ⟨spelling, listed, same⟩ := spells
  obtain ⟨solid, comma, colon⟩ := (letters_of_spelling type spelling listed).2 c.toLower
    (same ▸ List.mem_map_of_mem inside)
  refine ⟨?_, ?_, ?_⟩
  · rw [← Bool.not_eq_true]
    intro blank
    rw [toLower_of_isBlank blank, blank] at solid
    cases solid
  · rintro rfl
    exact comma rfl
  · rintro rfl
    exact colon rfl

theorem Spells.solid (spells : Spells word type) : Solid word :=
  ⟨fun _ start => (spells.letters (List.mem_of_mem_head? start)).1,
    fun _ final => (spells.letters (List.mem_of_mem_getLast? final)).1⟩

/-! ## One part -/

theorem exists_divides (position : Nat) (text : List Char) :
    ∃ name word, Divides position text name word := by
  by_cases colon : ':' ∈ text
  · obtain ⟨front, behind, rfl, first⟩ := List.eq_append_cons_of_mem colon
    exact ⟨_, _, .named first (trims_trim front) (trims_trim behind)⟩
  · exact ⟨_, _, .unnamed colon (trims_trim text)⟩

theorem Divides.word_subset (divides : Divides position text name word) : word ⊆ text := by
  cases divides with
  | named first own type =>
      intro c inside
      exact List.mem_append_right _ (List.mem_cons_of_mem _ (type.padded.subset inside))
  | unnamed alone type => exact type.padded.subset

theorem Divides.solid (divides : Divides position text name word) (spells : Spells word type) :
    ¬ Blank text := by
  intro blank
  obtain ⟨c, inside⟩ := List.exists_mem_of_ne_nil word spells.ne_nil
  exact blank.not_mem (spells.letters inside).1 (divides.word_subset inside)

theorem legible_iff : Legible part ↔ ∃ column, Defines part column := by
  constructor
  · rintro ⟨-, name, word, type, divides, spells⟩
    exact ⟨⟨name, type⟩, word, divides, spells⟩
  · rintro ⟨column, word, divides, spells⟩
    exact ⟨divides.solid spells, column.name, word, column.type, divides, spells⟩

theorem forall_not_colon (free : ':' ∉ text) : ∀ c ∈ text, decide (c ≠ ':') = true :=
  fun _ inside => decide_eq_true fun same => free (same ▸ inside)

theorem readColumn_of_blank (blank : Blank text) :
    readColumn position text = .error (.emptyColumn position) := by
  simp only [readColumn, trim_eq_nil_iff.mpr blank, if_true]

theorem readColumn_of_divides (solid : ¬ Blank text) (divides : Divides position text name word) :
    readColumn position text = (typeOfWord? (word.map Char.toLower)).elim
      (.error (.unknownType (String.ofList (word.map Char.toLower))))
      (fun type => .ok ⟨name, type⟩) := by
  have more : trim text ≠ [] := fun nothing => solid (trim_eq_nil_iff.mp nothing)
  simp only [readColumn, if_neg more]
  cases divides with
  | @named front behind name word first own type =>
      -- the colon stays, so what is trimmed off stands before the name or behind the word
      have before : ∀ c ∈ dropBlanks front, decide (c ≠ ':') = true :=
        fun c inside => forall_not_colon first c ((List.dropWhile_suffix _).subset inside)
      rw [trim_append_cons front (by decide) behind, List.dropWhile_append_of_pos before,
        List.takeWhile_append_of_pos before, List.dropWhile_cons_of_neg (by decide),
        List.takeWhile_cons_of_neg (by decide), List.append_nil]
      simp only [trim_dropBlanks, trim_dropBlanks_reverse, own.trim_eq, type.trim_eq]
      cases typeOfWord? (word.map Char.toLower) <;> rfl
  | unnamed alone type =>
      have free : ':' ∉ word := fun inside => alone (type.padded.subset inside)
      rw [type.trim_eq, List.dropWhile_eq_nil_iff.mpr (forall_not_colon free)]
      dsimp only
      cases typeOfWord? (word.map Char.toLower) <;> rfl

theorem Defines.read (defines : Defines part column) :
    readColumn part.2 part.1 = .ok column := by
  obtain ⟨word, divides, spells⟩ := defines
  rw [readColumn_of_divides (divides.solid spells) divides, typeOfWord?_eq_some_iff.mpr spells]
  rfl

theorem Offends.read (offends : Offends part fault) :
    readColumn part.2 part.1 = .error fault := by
  cases offends with
  | empty blank => exact readColumn_of_blank blank
  | unknown solid divides other =>
      rw [readColumn_of_divides solid divides]
      cases named : typeOfWord? _ with
      | none => rfl
      | some type => exact absurd (typeOfWord?_eq_some_iff.mp named) (other type)

theorem defines_or_offends (part : List Char × Nat) :
    (∃ column, Defines part column) ∨ ∃ fault, Offends part fault := by
  by_cases blank : Blank part.1
  · exact .inr ⟨_, .empty blank⟩
  · obtain ⟨name, word, divides⟩ := exists_divides part.2 part.1
    by_cases known : ∃ type, Spells word type
    · obtain ⟨type, spells⟩ := known
      exact .inl ⟨⟨name, type⟩, word, divides, spells⟩
    · exact .inr ⟨_, .unknown blank divides (not_exists.mp known)⟩

theorem readColumn_eq_ok_iff : readColumn part.2 part.1 = .ok column ↔ Defines part column := by
  refine ⟨fun read => ?_, Defines.read⟩
  obtain ⟨other, defines⟩ | ⟨fault, offends⟩ := defines_or_offends part
  · cases defines.read.symm.trans read
    exact defines
  · cases offends.read.symm.trans read

theorem readColumn_eq_error_iff :
    readColumn part.2 part.1 = .error fault ↔ Offends part fault := by
  refine ⟨fun read => ?_, Offends.read⟩
  obtain ⟨column, defines⟩ | ⟨other, offends⟩ := defines_or_offends part
  · cases defines.read.symm.trans read
  · cases offends.read.symm.trans read
    exact offends

/-! ## All parts -/

variable {texts written : List (List Char)} {columns : List Column}

theorem readColumns_cons_eq_ok_iff :
    readColumns position (text :: texts) = .ok columns ↔
      ∃ column others, readColumn position text = .ok column ∧
        readColumns (position + 1) texts = .ok others ∧ columns = column :: others := by
  simp only [readColumns, bind, Except.bind, pure, Except.pure]
  cases readColumn position text with
  | error fault => simp
  | ok column => cases readColumns (position + 1) texts <;> simp [eq_comm]

theorem readColumns_cons_eq_error_iff :
    readColumns position (text :: texts) = .error fault ↔
      readColumn position text = .error fault ∨
        (∃ column, readColumn position text = .ok column) ∧
          readColumns (position + 1) texts = .error fault := by
  simp only [readColumns, bind, Except.bind, pure, Except.pure]
  cases readColumn position text with
  | error fault => simp
  | ok column => cases readColumns (position + 1) texts <;> simp

theorem readColumns_eq_ok_iff :
    readColumns position texts = .ok columns ↔
      List.Forall₂ Defines (texts.zipIdx position) columns := by
  induction texts generalizing position columns with
  | nil => simp [readColumns, eq_comm]
  | cons text texts ih =>
      rw [readColumns_cons_eq_ok_iff, List.zipIdx_cons, List.forall₂_cons_left_iff]
      simp only [← ih, ← readColumn_eq_ok_iff]

theorem failsAtFirst_cons {parts : List (List Char × Nat)} :
    FailsAtFirst (part :: parts) fault ↔
      Offends part fault ∨ Legible part ∧ FailsAtFirst parts fault := by
  constructor
  · rintro ⟨before, offending, behind, cut, legible, offends⟩
    cases before with
    | nil =>
        cases cut
        exact .inl offends
    | cons first before =>
        cases cut
        exact .inr ⟨legible _ List.mem_cons_self, before, offending, behind, rfl,
          fun earlier inside => legible earlier (List.mem_cons_of_mem _ inside), offends⟩
  · rintro (offends | ⟨first, before, offending, behind, rfl, legible, offends⟩)
    · exact ⟨[], part, parts, rfl, nofun, offends⟩
    · exact ⟨part :: before, offending, behind, rfl, List.forall_mem_cons.mpr ⟨first, legible⟩,
        offends⟩

theorem readColumns_eq_error_iff :
    readColumns position texts = .error fault ↔ FailsAtFirst (texts.zipIdx position) fault := by
  induction texts generalizing position with
  | nil => simp [readColumns, FailsAtFirst]
  | cons text texts ih =>
      rw [readColumns_cons_eq_error_iff, ih, List.zipIdx_cons, failsAtFirst_cons, legible_iff]
      simp only [← readColumn_eq_error_iff, ← readColumn_eq_ok_iff]

theorem parse_eq_ok_iff {text : String} {schema : Schema} :
    parse text = .ok schema ↔ List.Forall₂ Defines (parts text) schema.columns := by
  rw [parts, ← pieces_eq_splitOn, ← readColumns_eq_ok_iff, parse]
  cases readColumns 0 (pieces ',' text.toList) with
  | error fault => simp [Except.map]
  | ok columns =>
      cases schema
      simp [Except.map]

theorem parse_eq_error_iff {text : String} :
    parse text = .error fault ↔ FailsAtFirst (parts text) fault := by
  rw [parts, ← pieces_eq_splitOn, ← readColumns_eq_error_iff, parse]
  cases readColumns 0 (pieces ',' text.toList) <;> simp [Except.map]

theorem exists_forall₂_defines_iff {parts : List (List Char × Nat)} :
    (∃ columns, List.Forall₂ Defines parts columns) ↔ ∀ part ∈ parts, Legible part := by
  induction parts with
  | nil => exact ⟨fun _ _ => nofun, fun _ => ⟨[], .nil⟩⟩
  | cons part parts ih =>
      rw [List.forall_mem_cons, ← ih, legible_iff]
      constructor
      · rintro ⟨columns, all⟩
        obtain ⟨column, others, first, rest, -⟩ := List.forall₂_cons_left_iff.mp all
        exact ⟨⟨column, first⟩, others, rest⟩
      · rintro ⟨⟨column, first⟩, columns, others⟩
        exact ⟨column :: columns, .cons first others⟩

/-! ## Texts for columns -/

/-- A name that can be written: without the marks of a text, and without blanks at its ends. -/
structure Plain (name : String) : Prop where
  comma : ',' ∉ name.toList
  colon : ':' ∉ name.toList
  solid : Solid name.toList

/-- The texts of a column: its name, a colon and a word for its type, with any blanks around
the name and around the word. -/
inductive Writes (column : Column) : List Char → Prop
  | intro {own word type : List Char} (name : Padded column.name.toList own)
      (spells : Spells word column.type) (padded : Padded word type) :
      Writes column (own ++ ':' :: type)

theorem Writes.defines (writes : Writes column text) (plain : Plain column.name)
    (position : Nat) : Defines (text, position) column := by
  cases writes with
  | @intro own word type name spells padded =>
      have divides : Divides position (own ++ ':' :: type) (String.ofList column.name.toList) word :=
        .named (name.not_mem (by decide) plain.colon) ⟨name, plain.solid⟩ ⟨padded, spells.solid⟩
      rw [String.ofList_toList] at divides
      exact ⟨word, divides, spells⟩

theorem Writes.comma (writes : Writes column text) (plain : Plain column.name) : ',' ∉ text := by
  cases writes with
  | @intro own word type name spells padded =>
      have front : ',' ∉ own := name.not_mem (by decide) plain.comma
      have behind : ',' ∉ type :=
        padded.not_mem (by decide) fun inside => (spells.letters inside).2.1 rfl
      simp [front, behind]

theorem comma_of_writes
    (plain : ∀ column ∈ columns, Plain column.name)
    (writes : List.Forall₂ Writes columns written) : ∀ text ∈ written, ',' ∉ text := by
  induction writes with
  | nil => exact fun _ => nofun
  | cons first others ih =>
      rw [List.forall_mem_cons] at plain ⊢
      exact ⟨first.comma plain.1, ih plain.2⟩

theorem forall₂_defines_of_writes
    (plain : ∀ column ∈ columns, Plain column.name) (writes : List.Forall₂ Writes columns written)
    (position : Nat) : List.Forall₂ Defines (written.zipIdx position) columns := by
  induction writes generalizing position with
  | nil => exact .nil
  | cons first others ih =>
      rw [List.forall_mem_cons] at plain
      exact .cons (first.defines plain.1 position) (ih plain.2 (position + 1))

/-- The parts of a text say its columns.  A text is a schema exactly if each of its parts is
more than blanks and has a word that stands for a type.  Then its columns are those that the
parts define one by one, and otherwise the first part that defines none is at fault.  Columns
with plain names are read back from each text in which they are written. -/
theorem texts_are_read_by_parts :
    (∀ text : String,
      ((∃ schema, parse text = .ok schema) ↔ ∀ part ∈ parts text, Legible part) ∧
      (∀ schema, parse text = .ok schema ↔ List.Forall₂ Defines (parts text) schema.columns) ∧
      ∀ fault, parse text = .error fault ↔ FailsAtFirst (parts text) fault) ∧
    ∀ columns : List Column, columns ≠ [] → (∀ column ∈ columns, Plain column.name) →
      ∀ written, List.Forall₂ Writes columns written →
        parse (String.ofList ([','].intercalate written)) = .ok ⟨columns⟩ := by
  refine ⟨fun text => ⟨?_, fun _ => parse_eq_ok_iff, fun _ => parse_eq_error_iff⟩, ?_⟩
  · rw [← exists_forall₂_defines_iff]
    simp only [parse_eq_ok_iff]
    exact ⟨fun ⟨schema, all⟩ => ⟨schema.columns, all⟩, fun ⟨columns, all⟩ => ⟨⟨columns⟩, all⟩⟩
  · intro columns some plain written writes
    have free := comma_of_writes plain writes
    have more : written ≠ [] := by
      rintro rfl
      exact some (List.forall₂_nil_right_iff.mp writes)
    rw [parse_eq_ok_iff, parts, String.toList_ofList, List.splitOn_intercalate ',' free more]
    exact forall₂_defines_of_writes plain writes 0

def numberAndUnnamed : List Column := [⟨"id", .int⟩, ⟨"", .text⟩]

theorem two_columns_are_read_by_parts :
    parse " id\u00a0: Int32,:STRING\t" = .ok ⟨numberAndUnnamed⟩ ∧
      parse "int, \u3000,float" = .error (.emptyColumn 1) := by
  obtain ⟨parsed, written⟩ := texts_are_read_by_parts
  refine ⟨?_, ?_⟩
  · have plain : ∀ column ∈ numberAndUnnamed, Plain column.name := by
      simp only [numberAndUnnamed, List.forall_mem_cons]
      exact ⟨⟨by simp, by simp, by simp [isBlank], by simp [isBlank]⟩,
        ⟨by simp, by simp, by simp, by simp⟩, nofun⟩
    have int : Spells "Int32".toList .int := ⟨"int32", by simp [ColumnType.spellings], rfl⟩
    have text : Spells "STRING".toList .text := ⟨"string", by simp [ColumnType.spellings], rfl⟩
    have first : Writes ⟨"id", .int⟩ (" id\u00a0".toList ++ ':' :: " Int32".toList) :=
      .intro ⟨[' '], ['\u00a0'], by simp [Blank, isBlank], by simp [Blank, isBlank], rfl⟩ int
        ⟨[' '], [], by simp [Blank, isBlank], nofun, rfl⟩
    have second : Writes ⟨"", .text⟩ ([] ++ ':' :: "STRING\t".toList) :=
      .intro ⟨[], [], nofun, nofun, rfl⟩ text ⟨[], ['\t'], nofun, by simp [Blank, isBlank], rfl⟩
    have joined : " id\u00a0: Int32,:STRING\t" = String.ofList ([','].intercalate
        [" id\u00a0".toList ++ ':' :: " Int32".toList, [] ++ ':' :: "STRING\t".toList]) := by
      simp [List.intercalate]
    rw [joined]
    exact written numberAndUnnamed nofun plain _ (.cons first (.cons second .nil))
  · have legible : Legible ("int".toList, 0) := legible_iff.mpr
      ⟨⟨defaultName 0, .int⟩, "int".toList,
        .unnamed (by simp) ⟨⟨[], [], nofun, nofun, rfl⟩, by simp [isBlank], by simp [isBlank]⟩,
        "int", by simp [ColumnType.spellings], rfl⟩
    have cut : parts "int, \u3000,float" =
        [("int".toList, 0), (" \u3000".toList, 1), ("float".toList, 2)] := by
      have joined : "int, \u3000,float" =
          String.ofList ([','].intercalate ["int".toList, " \u3000".toList, "float".toList]) := by
        simp [List.intercalate]
      rw [parts, joined, String.toList_ofList,
        List.splitOn_intercalate ',' (by simp) (List.cons_ne_nil _ _)]
      rfl
    rw [(parsed _).2.2, cut]
    exact ⟨[("int".toList, 0)], _, _, rfl, List.forall_mem_singleton.mpr legible,
      .empty (by simp [Blank, isBlank])⟩

end Schema

end TableStore
