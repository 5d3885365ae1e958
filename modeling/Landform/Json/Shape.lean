import Landform.Json.Fault
import Landform.Number.Bounded

namespace Landform
namespace Json

/-!
Shapes: what a value is expected to look like.  A value that fits a shape has a full form,
in which the members of a record stand in the order of its fields, members nobody asked
for are gone, and fields that were absent have their default.  Readers and checks produce
full forms, so what is built from a value never has to look for missing members.

A record may also be given as a list of the values of its fields.
-/

mutual

/-- What a value is expected to look like. -/
inductive Shape where
  | text
  | integer (span : Number.Span) (title : String)
  | optional (inner : Shape)
  | list (inner : Shape)
  | dictionary (inner : Shape)
  | record (title : String) (fields : Fields)
  | choice (title tag : String) (variants : Variants)

/-- The fields of a record, each with the default it has when absent. -/
inductive Fields where
  | nil
  | cons (name : String) (default : Option Json) (shape : Shape) (rest : Fields)

/-- The forms of a choice: the mark each is told by, and the record that goes with it. -/
inductive Variants where
  | nil
  | cons (mark title : String) (fields : Fields) (rest : Variants)

end

namespace Fields

/-- The number of fields. -/
def count : Fields -> Nat
  | nil => 0
  | cons _ _ _ rest => rest.count + 1

/-- The names of the fields. -/
def names : Fields -> List String
  | nil => []
  | cons name _ _ rest => name :: rest.names

end Fields

namespace Variants

/-- The marks of the forms. -/
def marks : Variants -> List String
  | nil => []
  | cons mark _ _ rest => mark :: rest.marks

end Variants

/-- A number of elements, in words. -/
def elementCount (n : Nat) : String :=
  if n = 1 then "1 element" else s!"{n} elements"

/-- What a record given as a list is expected to be. -/
def recordLength (title : String) (count : Nat) : String :=
  title ++ " with " ++ elementCount count

/-- A value with the outcome of fitting it to an integer range. -/
def fitInteger (span : Number.Span) (title : String) (value : Json) :
    Except ShapeCause Json :=
  match value with
  | .whole n =>
      if span.contains n then .ok value else .error (.wrongValue (.whole n) title)
  | other => .error (.wrongType (Found.ofValue other) title)

/-- The mark of a choice that a value is. -/
def fitMark (marks : List String) (value : Json) : Except ShapeCause String :=
  match value with
  | .text mark =>
      if marks.contains mark then .ok mark else .error (.unknownVariant mark marks)
  | other => .error (.wrongType (Found.ofValue other) "variant identifier")

/-- What expected lists of values say about a list that is too long. -/
inductive SurplusRule where
  | fewerElements
  | exactElements

/-- The fault of a list that is longer than a record has fields. -/
def SurplusRule.cause (rule : SurplusRule) (length count : Nat) : ShapeCause :=
  .wrongLength length
    (match rule with
    | .fewerElements => "fewer elements in array"
    | .exactElements => elementCount count ++ " in sequence")

/-- A field of a record, with the way to its full form. -/
structure FieldFit where
  name : String
  default : Option Json
  fit : Json -> Except ShapeCause Json

/-- The members of a record in the order of its fields, absent ones by their default. -/
def completeFields (found : List (String × Json)) :
    List (String × Option Json) -> Except ShapeCause (List (String × Json))
  | [] => .ok []
  | (name, default) :: rest =>
      match (found.lookup name).or default with
      | none => .error (.missingField name)
      | some value => (completeFields found rest).map fun more => (name, value) :: more

/-- Fits the members of an object to the fields of a record, one after another. -/
def fitMembers (fields : List FieldFit) (found : List (String × Json)) :
    List (String × Json) -> Except ShapeCause (List (String × Json))
  | [] => completeFields found (fields.map fun field => (field.name, field.default))
  | (key, value) :: rest =>
      match fields.find? fun field => field.name == key with
      | none => fitMembers fields found rest
      | some field =>
          if (found.lookup key).isSome then .error (.duplicateField key)
          else
            match field.fit value with
            | .ok full => fitMembers fields (found ++ [(key, full)]) rest
            | .error cause => .error cause

/-- Fits the items of a list to the fields of a record; gives what is left over, too. -/
def fitItems (title : String) (count : Nat) :
    Nat -> List FieldFit -> List Json ->
      Except ShapeCause (List (String × Json) × List Json)
  | _, [], left => .ok ([], left)
  | position, field :: fields, item :: items =>
      match field.fit item with
      | .error cause => .error cause
      | .ok full =>
          (fitItems title count (position + 1) fields items).map fun rest =>
            ((field.name, full) :: rest.1, rest.2)
  | position, field :: fields, [] =>
      match field.default with
      | none => .error (.wrongLength position (recordLength title count))
      | some default =>
          (fitItems title count (position + 1) fields []).map fun rest =>
            ((field.name, default) :: rest.1, rest.2)

/-- Fits a value to a record. -/
def fitRecord (rule : SurplusRule) (title : String) (fields : List FieldFit) (value : Json) :
    Except ShapeCause Json :=
  match value with
  | .object members => (fitMembers fields [] members).map Json.object
  | .list items =>
      match fitItems title fields.length 0 fields items with
      | .error cause => .error cause
      | .ok (members, []) => .ok (.object members)
      | .ok (_, _ :: _) => .error (rule.cause items.length fields.length)
  | other => .error (.wrongType (Found.ofValue other) title)

/-- Fits each of some values. -/
def fitAll (fit : Json -> Except ShapeCause Json) : List Json -> Except ShapeCause (List Json)
  | [] => .ok []
  | item :: rest =>
      match fit item with
      | .ok full => (fitAll fit rest).map fun more => full :: more
      | .error cause => .error cause

/-- Fits the value of each member of an object whose keys are free. -/
def fitDictionary (fit : Json -> Except ShapeCause Json) :
    List (String × Json) -> Except ShapeCause (List (String × Json))
  | [] => .ok []
  | (key, value) :: rest =>
      match fit value with
      | .ok full => (fitDictionary fit rest).map fun more => (key, full) :: more
      | .error cause => .error cause

/-- The mark and the remaining members of an object that is one of the forms of a choice. -/
def takeMark (tag : String) (marks : List String) :
    Option String -> List (String × Json) ->
      Except ShapeCause (String × List (String × Json))
  | some mark, [] => .ok (mark, [])
  | none, [] => .error (.missingField tag)
  | mark, (key, value) :: rest =>
      if key == tag then
        if mark.isSome then .error (.duplicateField tag)
        else
          match fitMark marks value with
          | .ok found => takeMark tag marks (some found) rest
          | .error cause => .error cause
      else
        (takeMark tag marks mark rest).map fun found => (found.1, (key, value) :: found.2)

/-- The full form of a choice: its mark in front of the members of the form. -/
def tagged (tag mark : String) (full : Json) : Json :=
  .object ((tag, .text mark) :: full.members)

/-- A value taken apart into the mark of a choice and the rest. -/
def splitMark (title tag : String) (marks : List String) (value : Json) :
    Except ShapeCause (String × Json) :=
  match value with
  | .object members =>
      (takeMark tag marks none members).map fun found => (found.1, .object found.2)
  | .list [] => .error (.missingField tag)
  | .list (first :: rest) => (fitMark marks first).map fun mark => (mark, .list rest)
  | other => .error (.wrongType (Found.ofValue other) title)

mutual

/-- The full form of a value that fits a shape. -/
def Shape.fit (rule : SurplusRule) : Shape -> Json -> Except ShapeCause Json
  | .text, value =>
      match value with
      | .text _ => .ok value
      | other => .error (.wrongType (Found.ofValue other) "a string")
  | .integer span title, value => fitInteger span title value
  | .optional inner, value =>
      match value with
      | .null => .ok .null
      | other => inner.fit rule other
  | .list inner, value =>
      match value with
      | .list items => (fitAll (inner.fit rule) items).map Json.list
      | other => .error (.wrongType (Found.ofValue other) "a sequence")
  | .dictionary inner, value =>
      match value with
      | .object members => (fitDictionary (inner.fit rule) members).map Json.object
      | other => .error (.wrongType (Found.ofValue other) "a map")
  | .record title fields, value => fitRecord rule title (fields.fits rule) value
  | .choice title tag variants, value =>
      match splitMark title tag variants.marks value with
      | .error cause => .error cause
      | .ok (mark, rest) => (variants.fit rule mark rest).map (tagged tag mark)

/-- The ways to the full forms of the fields. -/
def Fields.fits (rule : SurplusRule) : Fields -> List FieldFit
  | .nil => []
  | .cons name default shape rest => ⟨name, default, shape.fit rule⟩ :: rest.fits rule

/-- The full form of a value as the form of a choice told by a mark. -/
def Variants.fit (rule : SurplusRule) (mark : String) : Variants -> Json -> Except ShapeCause Json
  | .nil, value => .error (.wrongType (Found.ofValue value) mark)
  | .cons other title fields rest, value =>
      if other == mark then fitRecord rule title (fields.fits rule) value
      else rest.fit rule mark value

end

end Json
end Landform
