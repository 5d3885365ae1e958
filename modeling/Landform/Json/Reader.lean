import Landform.Json.Scalar
import Landform.Json.Shape

namespace Landform
namespace Json

/-!
Reading a text by the shape its value is expected to have.  The text is read once from the
left, and the first offence ends the reading, whether it is one against the form of the
text or against the shape.  The forms of a choice are told apart by a mark that may come
late, so a choice is read as a whole before it is fitted to its form.
-/

/-- Lists and objects may lie inside each other up to this depth. -/
def depthLimit : Nat := 127

/-- Reads what separates the items of a list; tells whether another item follows. -/
def nextItem (first : Bool) : Reading Bool := do
  match ← peekPastBlanks with
  | none => failAhead .endOfList
  | some ']' => return false
  | some c =>
      if first then return true
      else if c == ',' then do
        advance
        match ← peekPastBlanks with
        | none => failAhead .endOfValue
        | some ']' => failAhead .trailingComma
        | some _ => return true
      else failAhead .listSeparatorExpected

/-- Reads what separates the members of an object, and the next key if there is one. -/
def nextKey (first : Bool) : Reading (Option String) := do
  match ← peekPastBlanks with
  | none => failAhead .endOfObject
  | some '\x7d' => return none
  | some c =>
      if first then
        if c == '"' then readKey else failAhead .keyExpected
      else if c == ',' then do
        advance
        match ← peekPastBlanks with
        | none => failAhead .endOfValue
        | some '"' => readKey
        | some '\x7d' => failAhead .trailingComma
        | some _ => failAhead .keyExpected
      else failAhead .objectSeparatorExpected
where
  /-- Reads a key from its quote on. -/
  readKey : Reading (Option String) := do
    advance
    return some (← readTextBody)

/-- Reads the colon behind a key. -/
def passColon : Reading Unit := do
  match ← peekPastBlanks with
  | some ':' => advance
  | some _ => failAhead .colonExpected
  | none => failAhead .endOfObject

/-- Reads the end of a list. -/
def closeList : Reading Unit := do
  match ← peekPastBlanks with
  | some ']' => advance
  | some ',' => do
      advance
      match ← peekPastBlanks with
      | some ']' => failAhead .trailingComma
      | _ => failAhead .trailingCharacters
  | some _ => failAhead .trailingCharacters
  | none => failAhead .endOfList

/-- Reads the end of an object. -/
def closeObject : Reading Unit := do
  match ← peekPastBlanks with
  | some '\x7d' => advance
  | some ',' => failAhead .trailingComma
  | some _ => failAhead .trailingCharacters
  | none => failAhead .endOfObject

/-- Reads the items of a list behind its opening bracket. -/
def readItemsFrom (item : Reading Json) : (fuel : Nat) -> (first : Bool) -> List Json ->
    Reading (List Json)
  | 0, _, _ => failAhead .endOfList
  | fuel + 1, first, before => do
      if ← nextItem first then
        let value ← item
        readItemsFrom item fuel false (value :: before)
      else return before.reverse

/-- Reads the items of a list behind its opening bracket. -/
def readItems (item : Reading Json) : Reading (List Json) := do
  let size ← remaining
  readItemsFrom item (size + 1) true []

/-- Reads the members of an object behind its opening brace. -/
def readMembersFrom (value : Reading Json) : (fuel : Nat) -> (first : Bool) ->
    List (String × Json) -> Reading (List (String × Json))
  | 0, _, _ => failAhead .endOfObject
  | fuel + 1, first, before => do
      match ← nextKey first with
      | some key => do
          passColon
          let read ← value
          readMembersFrom value fuel false ((key, read) :: before)
      | none => return before.reverse

/-- Reads the members of an object behind its opening brace. -/
def readMembers (value : Reading Json) : Reading (List (String × Json)) := do
  let size ← remaining
  readMembersFrom value (size + 1) true []

/-- Fails because the value ahead is not what was expected; it is read as far as that tells. -/
def mismatch {α : Type} (expected : String) : Reading α := do
  match ← peek with
  | some '[' => misfit (.wrongType .list expected)
  | some '\x7b' => misfit (.wrongType .object expected)
  | _ =>
      match ← readScalar? with
      | some value => misfit (.wrongType (Found.ofValue value) expected)
      | none => failAhead .valueExpected

/-- Reads a value of one kind, which has to start with one of some characters. -/
def readOne (reading : Char -> Option (Reading Json)) (expected : String) : Reading Json :=
  located do
    match ← peekPastBlanks with
    | none => failAhead .endOfValue
    | some c => (reading c).getD (mismatch expected)

/-- Reads a value of any kind, lists and objects up to a depth. -/
def readAny : (depth : Nat) -> Reading Json
  | 0 => located do
      match ← peekPastBlanks with
      | none => failAhead .endOfValue
      | some '[' | some '\x7b' => failAhead .tooDeep
      | some _ => scalar
  | depth + 1 => located do
      match ← peekPastBlanks with
      | none => failAhead .endOfValue
      | some '[' => do
          advance
          enclosed (return .list (← readItems (readAny depth))) closeList
      | some '\x7b' => do
          advance
          enclosed (return .object (← readMembers (readAny depth))) closeObject
      | some _ => scalar
where
  /-- Reads a value that is neither list nor object. -/
  scalar : Reading Json := do
    match ← readScalar? with
    | some value => return value
    | none => failAhead .valueExpected

/-- What surrounds a value that is passed over. -/
inductive Surrounding where
  | list
  | object
  deriving DecidableEq

mutual

/-- Passes a value that nobody wants, inside of lists and objects that nobody wants. -/
def passValue : (fuel : Nat) -> List Surrounding -> Reading Unit
  | 0, _ => failAhead .endOfValue
  | fuel + 1, around => do
      match ← peekPastBlanks with
      | none => failAhead .endOfValue
      | some '[' => do
          advance
          passSeparator fuel false .list around
      | some '\x7b' => do
          advance
          passSeparator fuel false .object around
      | some '"' => do
          advance
          passTextBody
          passRest fuel around
      | some '-' => do
          advance
          passNumber
          passRest fuel around
      | some c =>
          if isDigitHere c then do
            passNumber
            passRest fuel around
          else
            match ← readScalar? with
            | some _ => passRest fuel around
            | none => failAhead .valueExpected

/-- Passes what follows a value. -/
def passRest : (fuel : Nat) -> List Surrounding -> Reading Unit
  | _, [] => return ()
  | 0, _ => failAhead .endOfValue
  | fuel + 1, inner :: around => passSeparator fuel true inner around

/-- Passes what stands before the next value of a list or object, or its end. -/
def passSeparator : (fuel : Nat) -> (mayEnd : Bool) -> Surrounding -> List Surrounding ->
    Reading Unit
  | 0, _, _, _ => failAhead .endOfValue
  | fuel + 1, separated, inner, around => do
      let ending := match inner with | .list => ']' | .object => '\x7d'
      match ← peekPastBlanks with
      | none => failAhead (match inner with | .list => .endOfList | .object => .endOfObject)
      | some c =>
          if c == ending then do
            advance
            passRest fuel around
          else if !separated then passKey fuel inner around
          else if c == ',' then do
            advance
            passKey fuel inner around
          else
            failAhead
              (match inner with
              | .list => .listSeparatorExpected
              | .object => .objectSeparatorExpected)

/-- Passes the key of the next value, if it has one, and the value. -/
def passKey : (fuel : Nat) -> Surrounding -> List Surrounding -> Reading Unit
  | 0, _, _ => failAhead .endOfValue
  | fuel + 1, .list, around => passValue fuel (.list :: around)
  | fuel + 1, .object, around => do
      match ← peekPastBlanks with
      | none => failAhead .endOfObject
      | some '"' => do
          advance
          passTextBody
          passColon
          passValue fuel (.object :: around)
      | some _ => failAhead .keyExpected

end

/-- Passes a value that nobody wants. -/
def passAny : Reading Unit := do
  let size ← remaining
  passValue (4 * size + 4) []

/-- A field of a record, with the reading of its value. -/
structure FieldReading where
  name : String
  default : Option Json
  read : Reading Json

/-- Fails at a place not known yet, or gives the result. -/
def orMisfit {α : Type} : Except ShapeCause α -> Reading α
  | .ok a => return a
  | .error cause => misfit cause

/-- Reads the members of a record behind its opening brace. -/
def readFieldsFrom (fields : List FieldReading) : (fuel : Nat) -> (first : Bool) ->
    List (String × Json) -> Reading (List (String × Json))
  | 0, _, _ => failAhead .endOfObject
  | fuel + 1, first, found => do
      match ← nextKey first with
      | none =>
          orMisfit
            (completeFields found (fields.map fun field => (field.name, field.default)))
      | some key =>
          match fields.find? fun field => field.name == key with
          | none => do
              passColon
              passAny
              readFieldsFrom fields fuel false found
          | some field =>
              if (found.lookup key).isSome then misfit (.duplicateField key)
              else do
                passColon
                let value ← field.read
                readFieldsFrom fields fuel false (found ++ [(key, value)])

/-- Reads the items of a list as the fields of a record, behind the opening bracket. -/
def readFieldItems (title : String) (count : Nat) : Nat -> List FieldReading ->
    Reading (List (String × Json))
  | _, [] => return []
  | position, field :: rest => do
      if ← nextItem (position == 0) then
        let value ← field.read
        return (field.name, value) :: (← readFieldItems title count (position + 1) rest)
      else
        match field.default with
        | none => misfit (.wrongLength position (recordLength title count))
        | some default =>
            return (field.name, default) ::
              (← readFieldItems title count (position + 1) rest)

/-- Reads a record. -/
def readRecord (title : String) (fields : List FieldReading) : Reading Json :=
  readOne
    (fun c =>
      if c == '[' then
        some do
          advance
          enclosed
            (return .object (← readFieldItems title fields.length 0 fields)) closeList
      else if c == '\x7b' then
        some do
          advance
          let size ← remaining
          enclosed
            (return .object (← readFieldsFrom fields (size + 1) true [])) closeObject
      else none)
    title

/-- Reads a text. -/
def readText : Reading Json :=
  readOne
    (fun c =>
      if c == '"' then
        some do
          advance
          return .text (← readTextBody)
      else none)
    "a string"

/-- Reads a whole number of a range. -/
def readInteger (span : Number.Span) (title : String) : Reading Json :=
  readOne
    (fun c =>
      if c == '-' then
        some do
          advance
          orMisfit (fitInteger span title (← readNumber true))
      else if isDigitHere c then
        some do
          orMisfit (fitInteger span title (← readNumber false))
      else none)
    title

/-- Reads a value that may be null. -/
def readOptional (inner : Reading Json) : Reading Json := do
  match ← peekPastBlanks with
  | some 'n' => do
      advance
      passWord ['u', 'l', 'l']
      return .null
  | _ => inner

/-- Reads a list. -/
def readList (item : Reading Json) : Reading Json :=
  readOne
    (fun c =>
      if c == '[' then
        some do
          advance
          enclosed (return .list (← readItems item)) closeList
      else none)
    "a sequence"

/-- Reads an object whose keys are free. -/
def readDictionary (value : Reading Json) : Reading Json :=
  readOne
    (fun c =>
      if c == '\x7b' then
        some do
          advance
          enclosed (return .object (← readMembers value)) closeObject
      else none)
    "a map"

/-- Reads the mark of a choice. -/
def readMark (marks : List String) : Reading String :=
  located do
    match ← peekPastBlanks with
    | none => failAhead .endOfValue
    | some '"' => do
        advance
        let mark ← readTextBody
        orMisfit (fitMark marks (.text mark))
    | some _ => mismatch "variant identifier"

/-- Reads the members of a choice behind its opening brace, the mark apart from the rest. -/
def readMarkedFrom (tag : String) (marks : List String) : (fuel : Nat) -> (first : Bool) ->
    Option String -> List (String × Json) -> Reading (String × Json)
  | 0, _, _, _ => failAhead .endOfObject
  | fuel + 1, first, mark, before => do
      match ← nextKey first with
      | none =>
          match mark with
          | some found => return (found, .object before.reverse)
          | none => misfit (.missingField tag)
      | some key =>
          if key == tag then
            if mark.isSome then misfit (.duplicateField tag)
            else do
              passColon
              let found ← readMark marks
              readMarkedFrom tag marks fuel false (some found) before
          else do
            passColon
            let value ← readAny (depthLimit - 2)
            readMarkedFrom tag marks fuel false mark ((key, value) :: before)

/-- Reads the items of a choice given as a list, behind the opening bracket. -/
def readMarkedItems (tag : String) (marks : List String) : Reading (String × Json) := do
  if ← nextItem true then
    let mark ← readMark marks
    let size ← remaining
    let rest ← readItemsFrom (readAny (depthLimit - 2)) (size + 1) false []
    return (mark, .list rest)
  else misfit (.missingField tag)

/-- Reads a choice, its mark apart from the rest. -/
def readMarked (title tag : String) (marks : List String) : Reading (String × Json) :=
  located do
    match ← peekPastBlanks with
    | none => failAhead .endOfValue
    | some '[' => do
        advance
        enclosed (readMarkedItems tag marks) closeList
    | some '\x7b' => do
        advance
        let size ← remaining
        enclosed (readMarkedFrom tag marks (size + 1) true none []) closeObject
    | some _ =>
        match ← readScalar? with
        | some value => misfit (.wrongType (Found.ofValue value) title)
        | none => failAhead .valueExpected

mutual

/-- The reading of a value of a shape. -/
def Shape.read : Shape -> Reading Json
  | .text => readText
  | .integer span title => readInteger span title
  | .optional inner => readOptional inner.read
  | .list inner => readList inner.read
  | .dictionary inner => readDictionary inner.read
  | .record title fields => readRecord title fields.readings
  | .choice title tag variants => do
      let (mark, rest) ← readMarked title tag variants.marks
      orMisfit ((variants.fit .exactElements mark rest).map (tagged tag mark))

/-- The readings of the fields. -/
def Fields.readings : Fields -> List FieldReading
  | .nil => []
  | .cons name default shape rest => ⟨name, default, shape.read⟩ :: rest.readings

end

/-- Reads the end of a text. -/
def passEnd : Reading Unit := do
  match ← peekPastBlanks with
  | some _ => failAhead .trailingCharacters
  | none => return ()

/-- The full form of the value a text holds. -/
def Shape.ofText (shape : Shape) (s : String) : Except ReadFault Json :=
  let whole : Reading Json := do
    let value ← shape.read
    passEnd
    return value
  match whole (Cursor.ofText s) with
  | .ok value _ => .ok value
  | .error fault _ => .error fault

/-- The full form of a value. -/
def Shape.ofValue (shape : Shape) (value : Json) : Except ReadFault Json :=
  match shape.fit .fewerElements value with
  | .ok full => .ok full
  | .error cause => .error ⟨.shape cause, none⟩

end Json
end Landform
