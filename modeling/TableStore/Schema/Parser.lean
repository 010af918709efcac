import TableStore.Schema
import TableStore.Text.Blank

/-!
# Schemas in text

A schema is written as column definitions with commas between.  A definition is
a name, a colon and a type word, or a type word alone; blanks around the parts
and the case of ASCII letters in a type word do not matter.
-/

set_option autoImplicit false

namespace TableStore

inductive SchemaFault where
  | emptyColumn (position : Nat)
  | unknownType (word : String)
deriving DecidableEq, Repr

def SchemaFault.message : SchemaFault → String
  | emptyColumn position =>
      "empty column definition at position " ++ toString position
  | unknownType word => "unknown column type '" ++ word ++ "'"

namespace Schema

def pieces (mark : Char) : List Char → List (List Char)
  | [] => [[]]
  | c :: text =>
      match pieces mark text with
      | [] => [[c]]
      | piece :: others =>
          if c = mark then [] :: piece :: others else (c :: piece) :: others

def typeOfWord? (word : List Char) : Option ColumnType :=
  if word = "int".toList ∨ word = "int32".toList then some .int
  else if word = "text".toList ∨ word = "string".toList then some .text
  else none

def readColumn (position : Nat) (definition : List Char) :
    Except SchemaFault Column :=
  let definition := Text.trim definition
  if definition = [] then .error (.emptyColumn position)
  else
    let (name, word) :=
      match definition.dropWhile (· ≠ ':') with
      | [] => (defaultName position, definition)
      | _ :: word =>
          (String.ofList (Text.trim (definition.takeWhile (· ≠ ':'))), Text.trim word)
    let word := word.map Char.toLower
    match typeOfWord? word with
    | some type => .ok ⟨name, type⟩
    | none => .error (.unknownType (String.ofList word))

def readColumns : (position : Nat) → List (List Char) →
    Except SchemaFault (List Column)
  | _, [] => .ok []
  | position, definition :: definitions => do
      let column ← readColumn position definition
      let columns ← readColumns (position + 1) definitions
      return column :: columns

def parse (text : String) : Except SchemaFault Schema :=
  (readColumns 0 (pieces ',' text.toList)).map Schema.mk

theorem pieces_ne_nil (mark : Char) (text : List Char) : pieces mark text ≠ [] := by
  cases text with
  | nil => simp [pieces]
  | cons c text =>
      simp only [pieces]
      split
      · simp
      · split <;> simp

theorem length_readColumns {position : Nat} {definitions : List (List Char)}
    {columns : List Column} (run : readColumns position definitions = .ok columns) :
    columns.length = definitions.length := by
  induction definitions generalizing position columns with
  | nil => cases run; rfl
  | cons definition definitions ih =>
      simp only [readColumns, bind, Except.bind] at run
      split at run
      · cases run
      · split at run
        · cases run
        · next tail => cases run; simp [ih tail]

end Schema

end TableStore
