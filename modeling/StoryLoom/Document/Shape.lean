import StoryLoom.Document.Value
import StoryLoom.Table

/-!
# Shape — reading typed data from the trees of documents

- `Spot`              : a tree in its place, with room for so many levels
- `Shape`             : a way to read data of a type; the wrong shape is refused
- `Fields.required`, `Fields.optional` : the fields of records
- `Variant`           : the forms that a choice between alternatives is written in

A record may lack a field that has a default. A field that no one asks for does no harm, one that
occurs twice does. An alternative takes two levels of its own, also where it is written as a name alone.
-/

namespace StoryLoom
namespace Document

/-- A tree and how many levels it may open. -/
structure Spot where
  value : Value
  room : Nat

/-- A tree one level further in. It is refused if it opens more levels than there is room for. -/
def Spot.inner? (room : Nat) (v : Value) : Option Spot :=
  if v.levels < room then some ⟨v, room - 1⟩ else none

/-- A way to read data of a type from a tree. -/
abbrev Shape (α : Type) := Spot → Option α

namespace Shape

def text : Shape String := fun s =>
  match s.value with
  | .text t => some t
  | _ => none

def natural (bits : Nat) : Shape Nat := fun s =>
  match s.value with
  | .number (some n) => if n < 1 <<< bits then some n else none
  | _ => none

/-- A number that arithmetic of 32 bits is done with. -/
def word32 : Shape UInt32 := fun s =>
  (natural 32 s).map UInt32.ofNat

def flag : Shape Bool := fun s =>
  match s.value with
  | .word name =>
    if name = ⟨"true", false⟩ then some true
    else if name = ⟨"false", false⟩ then some false
    else none
  | _ => none

def option {α : Type} (shape : Shape α) : Shape (Option α) := fun s =>
  match s.value with
  | .present v => ((Spot.inner? s.room v).bind shape).map some
  | .word name => if name = ⟨"None", false⟩ then some none else none
  | _ => none

/-- An entry of a tree in a place: its brackets take a level and the entry takes another. -/
def entry {α : Type} (shape : Shape α) (s : Spot) (v : Value) : Option α :=
  (Spot.inner? (s.room - 1) v).bind shape

def list {α : Type} (shape : Shape α) : Shape (List α) := fun s =>
  match s.value with
  | .list items => items.mapM (shape.entry s)
  | _ => none

/-- A map. The last value of a key counts. -/
def table {κ α : Type} [DecidableEq κ] (key : Shape κ) (shape : Shape α) : Shape (Table κ α) := fun s =>
  match s.value with
  | .map pairs =>
    (pairs.mapM fun (k, v) => do
      let key ← key.entry s k
      let value ← shape.entry s v
      return (key, value)).map Table.ofList
  | _ => none

end Shape

abbrev Fields := List (String × Spot)

namespace Fields

/-- The fields of a record, with room for so many levels around them. -/
def place (room : Nat) (fields : List (String × Value)) : Option Fields :=
  fields.mapM fun (name, v) => (Spot.inner? room v).map (name, ·)

def values (fields : Fields) (name : String) : List Spot :=
  (fields.filter (fun f => f.1 = name)).map Prod.snd

def required {α : Type} (fields : Fields) (name : String) (shape : Shape α) : Option α :=
  match fields.values name with
  | [v] => shape v
  | _ => none

def optional {α : Type} (fields : Fields) (name : String) (shape : Shape α) (default : α) :
    Option α :=
  match fields.values name with
  | [] => some default
  | [v] => shape v
  | _ => none

/-- A field for data that may be absent; the field may be missing too. -/
def maybe {α : Type} (fields : Fields) (name : String) (shape : Shape α) : Option (Option α) :=
  fields.optional name shape.option none

def listOf {α : Type} (fields : Fields) (name : String) (shape : Shape α) : Option (List α) :=
  fields.optional name shape.list []

def tableOf {κ α : Type} [DecidableEq κ] (fields : Fields) (name : String) (key : Shape κ)
    (shape : Shape α) : Option (Table κ α) :=
  fields.optional name (Shape.table key shape) ∅

end Fields

def Shape.record {α : Type} (type : String) (read : Fields → Option α) : Shape α := fun s =>
  match s.value with
  | .record name fields =>
    if name.all (· = type) then (Fields.place (s.room - 1) fields).bind read else none
  | .tuple name [] => if name.all (· = type) && 0 < s.room then read [] else none
  | _ => none

/-- The forms of an alternative: its name alone, with one value, or with fields. -/
inductive Variant
  | alone (name : String)
  | holding (name : String) (content : Spot)
  | withFields (name : String) (fields : Fields)

/-- The alternative that a tree stands for. Fields of an alternative take one level more than those of a
record. -/
def Variant.of? (s : Spot) : Option Variant :=
  match s.value with
  | .word name => if 1 < s.room then some (.alone name.text) else none
  | .tuple (some name) [v] => (Spot.inner? (s.room - 1) v).map (.holding name)
  | .record (some name) fields => (Fields.place (s.room - 2) fields).map (.withFields name)
  | _ => none

def Shape.choice {α : Type} (read : Variant → Option α) : Shape α :=
  fun s => (Variant.of? s).bind read

def Shape.oneOf {α : Type} (names : List (String × α)) : Shape α :=
  Shape.choice fun
    | .alone name => names.lookup name
    | _ => none

def Shape.ofText [DocumentLibrary] {α : Type} (shape : Shape α) (text : String) : Option α := do
  shape ⟨← DocumentLibrary.value text, DocumentLibrary.levelLimit⟩

end Document
end StoryLoom
