import Landform.Script.Services
import Landform.Script.Pattern

namespace Landform
namespace Script

/-!
The evaluation of scripts.

Every function of the evaluator spends one unit of a supply, and a script that uses it up
fails.  The supply is so large that no script reaches its end in any reasonable time.

A chain is evaluated in two passes: first the arguments and indexes of all its steps from
the left, then its root and the steps themselves.  What a step changes is handed back
through the steps before it to the variable the chain begins with.
-/

/-- How many functions of a script may be inside each other. -/
def deepestCall : Nat := 64

/-- What a chain is to put into the place it leads to. -/
structure Assignment where
  operator : Option Operator
  value : Value
  place : Place

/-- A step with its arguments evaluated. -/
inductive ReadyStep where
  | property (optional : Bool) (name : String) (place : Place)
  | method (optional : Bool) (name : String) (arguments : List Value) (firstAt place : Place)
  | index (optional : Bool) (index : Value) (place bracket : Place)

/-- What a loop goes through. -/
inductive Series where
  | items (values : List Value)
  | numbers (next stop : Int)
  | stairs (next stop stride : Int)
  | floatStairs (next stop stride : Float)

/-- The numbers from one to another by a stride; none if the stride leads away or too far. -/
def Series.ofStairs (start stop stride : Int) : Series :=
  let rises := decide (start < stop) && decide (0 < stride)
  let falls := decide (stop < start) && decide (stride < 0)
  if Number.int64.contains (start + stride) && (rises || falls) then .stairs start stop stride
  else .items []

/-- The floating-point numbers from one to another by a stride. -/
def Series.ofFloatStairs (start stop stride : Float) : Series :=
  let rises := decide (start < stop) && decide (start < start + stride)
  let falls := decide (stop < start) && decide (start + stride < start)
  if rises || falls then .floatStairs start stop stride else .items []

/-- What a value offers to a loop. -/
def seriesOf? : Value -> Option Series
  | .list items => some (.items items)
  | .text s => some (.items (s.toList.map .char))
  | .span low high inclusive => some (.numbers low (if inclusive then high + 1 else high))
  | .stairs start stop stride => some (.ofStairs start stop stride)
  | .floatStairs start stop stride => some (.ofFloatStairs start stop stride)
  | _ => none

/--
The next value of a series and the rest of it.  A number of a stair is only passed on if
the one behind it can still be told.
-/
def Series.next? : Series -> Option (Value × Series)
  | .items [] => none
  | .items (first :: rest) => some (first, .items rest)
  | .numbers next stop =>
      if next < stop then some (.integer next, .numbers (next + 1) stop) else none
  | .stairs next stop stride =>
      let following := next + stride
      let ended :=
        if 0 < stride then decide (stop ≤ following) else decide (following ≤ stop)
      if Number.int64.contains following then
        some (.integer next, if ended then .items [] else .stairs following stop stride)
      else none
  | .floatStairs next stop stride =>
      let following := next + stride
      let ended :=
        if 0.0 < stride then decide (stop ≤ following) else decide (following ≤ stop)
      some (.float next, if ended then .items [] else .floatStairs following stop stride)

/-- The value of a condition. -/
def truthOf (value : Value) (place : Place) : Run Bool :=
  match value with
  | .truth value => return value
  | other => Run.fail (.mismatch other.fullTypeName "bool") place

/-- An operator between two values; a failure of the operator itself has no place. -/
def operate (operator : Operator) (left right : Value) (place : Place) : Run Value :=
  settle (Value.signatureText operator.spelling [left, right]) place none
    (combine operator left right)

/-- The value that an assignment puts in the place of another. -/
def Assignment.resultOn (assignment : Assignment) (current : Value) : Run Value :=
  match assignment.operator with
  | none => return assignment.value
  | some operator =>
      settle (Value.signatureText operator.spelling [current, assignment.value]) assignment.place
        (some assignment.place) (combineInto operator current assignment.value)

/-- Carries out an assignment on a target; `name` is what the target belongs to. -/
def Assignment.carryOut (assignment : Assignment) (target : Target) (name : String)
    (place : Place) : Run Unit := do
  if target.fixed then Run.fail (.constantChanged name) place
  else do
    let result ← assignment.resultOn target.value
    target.store result assignment.place

/-- The part of a list at an index. -/
def itemTarget (target : Target) (items : List Value) (index : Int) (place : Place) :
    Run Target :=
  match indexIn items.length index with
  | none => Run.fail (.listBounds items.length index) place
  | some position =>
      return {
        value := (items[position]?).getD .unit
        fixed := target.fixed
        store := fun value => target.store (.list (items.set position value)) }

/-- The character of a text at an index; also that of a constant can be changed. -/
def charTarget (target : Target) (s : String) (index : Int) (place : Place) : Run Target :=
  match indexIn s.length index with
  | none => Run.fail (.textBounds s.length index) place
  | some position =>
      return {
        value := .char ((s.toList[position]?).getD ' ')
        store := fun value place =>
          match value with
          | .char c => target.store (.text (String.ofList (s.toList.set position c))) place
          | other => Run.fail (.mismatch other.fullTypeName "char") place }

/--
The characters of a text in a range.  A negative end counts from the end of the text, and
one that is not in the text means the end of the text.
-/
def stretchTarget (target : Target) (s : String) (low high : Int) (inclusive : Bool)
    (place : Place) : Run Target :=
  let cs := s.toList
  match indexIn cs.length low with
  | none => Run.fail (.textBounds cs.length low) place
  | some start =>
      let stop := (indexIn cs.length high).getD cs.length
      let behind := if inclusive then stop + 1 else stop
      return {
        value := .text (String.ofList ((cs.drop start).take (behind - start)))
        store := fun value =>
          target.store
            (.text
              (String.ofList (cs.take start ++ value.printedText.toList ++ cs.drop behind))) }

/-- The bit of a whole number at an index; also that of a constant can be changed. -/
def bitTarget (target : Target) (n index : Int) (place : Place) : Run Target :=
  match indexIn 64 index with
  | none => Run.fail (.bitBounds index) place
  | some position =>
      let bits := n % 18446744073709551616
      let weight : Int := Int.pow 2 position
      let isSet := bits / weight % 2 == 1
      return {
        value := .truth isSet
        store := fun value place =>
          match value with
          | .truth wanted =>
              let changed :=
                if wanted == isSet then bits else if wanted then bits + weight else bits - weight
              target.store (.integer (Int.bmod changed 18446744073709551616)) place
          | other => Run.fail (.mismatch other.fullTypeName "bool") place }

/-- The bits of a whole number in a range, as a whole number. -/
def bitsTarget (target : Target) (n low high : Int) (inclusive : Bool) (place : Place) :
    Run Target :=
  let isBit (index : Int) : Bool := decide (0 ≤ index) && decide (index < 64)
  if !isBit low then Run.fail (.bitBounds low) place
  else if !isBit high then Run.fail (.bitBounds high) place
  else
    let width := (high - low + if inclusive then 1 else 0).toNat
    let mask := Int64.ofInt ((Int.pow 2 width - 1) * Int.pow 2 low.toNat)
    let bits := Int64.ofInt n
    let shift := Int64.ofInt low
    return {
      value := .integer ((bits &&& mask) >>> shift).toInt
      store := fun value place =>
        match value with
        | .integer field =>
            let moved := (Int64.ofInt field <<< shift) &&& mask
            target.store (.integer ((bits &&& ~~~mask) ||| moved).toInt) place
        | other => Run.fail (.mismatch other.fullTypeName "integer") place }

/-- The field of a map; a field that is missing can always be given a value. -/
def fieldTarget (target : Target) (fields : List (String × Value)) (name : String) : Target where
  value := (fields.lookup name).getD .unit
  fixed := target.fixed && (fields.lookup name).isSome
  store := fun value => target.store (.record (SortedMap.insertEntry name value fields))

/--
Adds a field that is missing before an operator works on it: it stays without a value if the
operator fails.
-/
def openField (target : Target) (fields : List (String × Value)) (name : String)
    (assignment : Option Assignment) (place : Place) : Run Unit :=
  if (assignment.bind Assignment.operator).isSome && (fields.lookup name).isNone then
    target.store (.record (SortedMap.insertEntry name .unit fields)) place
  else return ()

/-- Adds the field that an index means, if it is missing, before an operator works on it. -/
def openIndex (target : Target) (index : Value) (assignment : Option Assignment)
    (place : Place) : Run Unit :=
  match target.value, index with
  | .record fields, .text name => openField target fields name assignment place
  | _, _ => return ()

/--
The part of a target at an index.  What is wrong with the index is reported at its place,
and at the bracket that there is no index at all; `given` is what the part is to become.
-/
def indexTarget (target : Target) (index : Value) (given : Option Value)
    (place bracket : Place) : Run Target :=
  match target.value, index with
  | .list items, .integer n => itemTarget target items n place
  | .list _, other => Run.fail (.mismatch other.fullTypeName "i64") place
  | .text s, .integer n => charTarget target s n place
  | .text s, .span low high inclusive => stretchTarget target s low high inclusive place
  | .text _, other => Run.fail (.mismatch other.fullTypeName "i64") place
  | .record fields, .text name => return fieldTarget target fields name
  | .record _, other => Run.fail (.mismatch other.fullTypeName "string") place
  | .integer n, .integer position => bitTarget target n position place
  | .integer n, .span low high inclusive => bitsTarget target n low high inclusive place
  | .integer _, other => Run.fail (.mismatch other.fullTypeName "i64") place
  | container, other =>
      Run.fail
        (.notIndexed container.typeName other.typeName (given.map Value.typeName)) bracket

/-- The value of a property that is not the field of a map. -/
def readProperty (value : Value) (name : String) (place : Place) : Run Value :=
  let missing : Run Value := Run.fail (.noGetter name value.typeName) place
  match value with
  | .sheet number => (sheetProperty number name).getD missing
  | other =>
      match property? other name with
      | some result => return result
      | none => missing

/-- Fails because a property cannot be given a value. -/
def refuseProperty (value : Value) (name : String) (given : Value) (place : Place) : Run Value :=
  Run.fail (.noSetter name value.typeName given.typeName) place

/-- The variables that the parameters of a function are; the first ones may be distant. -/
def Function.variables (function : Function) (taken : Nat) (arguments : List Value) :
    List Variable :=
  (function.parameters.zip arguments).mapIdx fun place parameter =>
    { name := parameter.1
      constant := false
      value := parameter.2
      distant := decide (place < taken) }

/-- How a function is called; the first parameters of a closure are names it has taken. -/
inductive Manner where
  | plain
  | openly
  | closure (taken : Nat)
  deriving DecidableEq, Inhabited

namespace Manner

/-- How many parameters stand for names that a closure has taken. -/
def taken : Manner -> Nat
  | closure taken => taken
  | plain | openly => 0

/-- Whether a function is called openly. -/
def isOpen (manner : Manner) : Bool :=
  manner == openly

/-- Whether a closure is called. -/
def isClosure : Manner -> Bool
  | closure _ => true
  | plain | openly => false

end Manner

/-- The value behind a value: what a cell holds. -/
def unshared (value : Value) : Run Value := do
  return (← Run.memory).behind value

/-- Whether a value is a cell. -/
def isCell : Value -> Bool
  | .cell _ => true
  | _ => false

/-- Fails if one of the values is a cell that is held. -/
def requireFree (bound : List Value) : Run Unit := do
  match bound.findIdx? (← Run.memory).isHeldCell with
  | some position => Run.stop (.failed { cause := .heldElsewhere position })
  | none => return ()

mutual

/-- The value of an expression, or the cell that holds it if it is shared. -/
def evaluateAsIs : (supply : Nat) -> Expr -> Run Value
  | 0, e => Run.fail .tooLong e.place
  | supply + 1, e =>
      match e with
      | .named name place => readShared name place
      | .orElse left right _ => do
          match ← evaluateAsIs supply left with
          | .unit => evaluateAsIs supply right
          | value => return value
      | .call name arguments isOpen place =>
          if isOpen then callOpenly supply name arguments place
          else call supply name arguments place
      | .chain root steps => evaluateChain supply root steps none
      | .statement statement => perform supply statement
      | other => evaluate supply other

/-- The value of an expression. -/
def evaluate : (supply : Nat) -> Expr -> Run Value
  | 0, e => Run.fail .tooLong e.place
  | supply + 1, e =>
      match e with
      | .literal literal _ => return literal.toValue
      | .template parts _ => do
          let values ← evaluateAll supply parts
          return .text (String.join (values.map Value.printedText))
      | .list items _ => do return .list (← evaluateAll supply items)
      | .record fields _ => do return .record (← evaluateFields supply fields [])
      | .named name place => readName name place
      | .foreign path name none origin _ => readForeignName path name origin
      | .foreign path _ (some arguments) origin _ => do
          let _ ← evaluateAll supply arguments
          Run.fail (.noModule path) origin
      | .self place => do return (← selfTarget place).value
      | .sign operator operand place => do
          let value ← evaluate supply operand
          settle (Value.signatureText operator.spelling [value]) place (some place)
            (signed operator value)
      | .binary operator left right place => do
          let x ← evaluate supply left
          let y ← evaluate supply right
          operate operator x y place
      | .both left right _ => do
          if ← truthOf (← evaluate supply left) left.place then
            return .truth (← truthOf (← evaluate supply right) right.place)
          else return .truth false
      | .either left right _ => do
          if ← truthOf (← evaluate supply left) left.place then return .truth true
          else return .truth (← truthOf (← evaluate supply right) right.place)
      | .orElse .. | .call .. | .chain .. | .statement _ => do
          unshared (← evaluateAsIs supply e)
      | .closure function captured _ => do
          let cells ← captured.mapM capture
          let parameters := captured.map (fun taken => taken.used.name) ++ function.parameters
          return .callable (.closure (.mk none "" parameters function.body) captured.length) cells

/-- The values of expressions. -/
def evaluateAll : (supply : Nat) -> List Expr -> Run (List Value)
  | _, [] => return []
  | 0, e :: _ => Run.fail .tooLong e.place
  | supply + 1, first :: rest => do
      let value ← evaluate supply first
      return value :: (← evaluateAll supply rest)

/-- The values of the fields of a map, put beside those known so far. -/
def evaluateFields :
    (supply : Nat) -> List (String × Expr) -> List (String × Value) ->
      Run (List (String × Value))
  | _, [], known => return known
  | 0, (_, e) :: _, _ => Run.fail .tooLong e.place
  | supply + 1, (name, first) :: rest, known => do
      let value ← evaluate supply first
      evaluateFields supply rest (SortedMap.insertEntry name value known)

/-- What a chain begins with. -/
def rootTarget : (supply : Nat) -> Expr -> Run Target
  | 0, e => Run.fail .tooLong e.place
  | supply + 1, e =>
      match e with
      | .named name place => nameTarget name place
      | .self place => selfTarget place
      | .foreign path name none origin _ => do
          return { value := ← readForeignName path name origin, fixed := true }
      | other => do return { value := ← evaluate supply other }

/-- Evaluates the arguments and indexes of steps. -/
def makeReady : (supply : Nat) -> List Step -> Run (List ReadyStep)
  | _, [] => return []
  | 0, step :: _ => Run.fail .tooLong step.mark
  | supply + 1, step :: rest => do
      let ready ←
        match step with
        | .property optional name _ place => pure (.property optional name place)
        | .method optional name arguments _ place => do
            let firstAt := (arguments.head?.map Expr.place).getD place
            pure (.method optional name (← evaluateAll supply arguments) firstAt place)
        | .index optional index bracket => do
            pure (.index optional (← evaluate supply index) index.start bracket)
      return ready :: (← makeReady supply rest)

/-- The value of a chain, or what is put into the place it leads to. -/
def evaluateChain : (supply : Nat) -> Expr -> List Step -> Option Assignment -> Run Value
  | 0, e, _, _ => Run.fail .tooLong e.place
  | supply + 1, root, steps, assignment => do
      let ready ← makeReady supply steps
      let target ← rootTarget supply root
      Run.holding target.cell?
        (walk supply (root.name?.getD "") root.start target ready assignment)

/-- Follows steps from a target; `name` and `origin` tell what the chain begins with. -/
def walk :
    (supply : Nat) -> (name : String) -> (origin : Place) -> Target -> List ReadyStep ->
      Option Assignment -> Run Value
  | 0, _, origin, _, _, _ => Run.fail .tooLong origin
  | supply + 1, name, origin, target, steps, assignment =>
      match steps with
      | [] =>
          match assignment with
          | none => return target.value
          | some assignment => do
              assignment.carryOut target name origin
              return .unit
      | .property optional property place :: rest =>
          match target.value with
          | .record fields => do
              if rest.isEmpty then openField target fields property assignment place
              walk supply name origin (fieldTarget target fields property) rest assignment
          | value =>
              match optional && value.isUnit, rest, assignment with
              | true, _, _ => return .unit
              | false, [], some assignment => do
                  let result ←
                    if assignment.operator.isSome then do
                      let current ← readProperty value property place
                      assignment.resultOn current
                    else pure assignment.value
                  refuseProperty value property result place
              | false, _, _ => do
                  let part ← readProperty value property place
                  walk supply name origin { value := part } rest assignment
      | .method optional method arguments firstAt place :: rest => do
          if optional && target.value.isUnit then return .unit
          else do
              let result ← callMethod supply target method arguments firstAt place
              let part ← if rest.isEmpty then pure result else unshared result
              walk supply name origin { value := part } rest assignment
      | .index optional index place bracket :: rest => do
          if optional && target.value.isUnit then return .unit
          else do
              let given := if rest.isEmpty then assignment.map Assignment.value else none
              if rest.isEmpty then openIndex target index assignment place
              let part ← indexTarget target index given place bracket
              walk supply name origin part rest assignment

/-- Calls a method of a target. -/
def callMethod :
    (supply : Nat) -> Target -> String -> List Value -> (firstAt place : Place) -> Run Value
  | 0, _, _, _, _, place => Run.fail .tooLong place
  | supply + 1, target, name, arguments, firstAt, place =>
      let subject : Subject := ⟨target.value, target.fixed⟩
      let kept (ended : Value × Option Value) : Run Value := do
        match ended.2 with
        | some changed => target.store changed place
        | none => pure ()
        return ended.1
      let onTarget (callee : Callee) (bound given : List Value) : Run Value := do
        kept (← callValue supply callee bound given (some subject) place)
      let notFunction (value : Value) (place : Place) : Run Value :=
        Run.fail (.mismatch value.typeName "Fn") place
      let plain : Run Value := do
        kept (← callNamed supply name arguments (some subject) place)
      match name, target.value, arguments with
      | "call", .callable callee bound, given => do
          return (← callValue supply callee bound given none place).1
      | "call", _, .callable callee bound :: given => onTarget callee bound given
      | "call", _, first :: _ => notFunction first firstAt
      | "call", other, [] => notFunction other place
      | "curry", .callable callee bound, given => return .callable callee (bound ++ given)
      | "curry", other, _ => notFunction other place
      | "is_shared", _, [] => return .truth target.cell?.isSome
      | _, .record fields, given =>
          match fields.lookup name with
          | some (.callable callee bound) => onTarget callee bound given
          | _ => plain
      | _, _, _ => plain

/--
Calls a function that is a value, as a method of `self` if there is one.  The result comes
with what the function has made of `self`.  A closure that has taken a cell that is held is
not called.
-/
def callValue :
    (supply : Nat) -> Callee -> (bound given : List Value) -> Option Subject -> Place ->
      Run (Value × Option Value)
  | 0, _, _, _, _, place => Run.fail .tooLong place
  | supply + 1, callee, bound, given, self, place => do
      let memory ← Run.memory
      let arguments := bound ++ given
      requireFree bound
      match callee with
      | .closure function taken =>
          if function.arity == arguments.length then
            enter supply function (.closure taken) arguments self place
          else
            Run.fail (.noFunction (Value.signatureText "anon" (arguments.map memory.behind)))
              place
      | .byName name | .linked name =>
          callNamed supply name (arguments.map memory.behind) self place

/-- Calls the function of a name, as a method of `self` if there is one. -/
def callNamed :
    (supply : Nat) -> String -> List Value -> Option Subject -> Place ->
      Run (Value × Option Value)
  | 0, _, _, _, place => Run.fail .tooLong place
  | supply + 1, name, arguments, self, place => do
      let program := (← Run.surroundings).program
      let found :=
        match self with
        | some subject => program.method? subject.value.typeName name arguments.length
        | none => program.function? name arguments.length
      match found, self with
      | some function, _ => enter supply function .plain arguments self place
      | none, some subject => do
          let effect ← callBuiltIn name (subject.value :: arguments) place
          if subject.fixed && effect.changed.isSome then Run.fail (.constantMethod name) place
          else return (effect.result, effect.changed)
      | none, none => do
          let effect ← callBuiltIn name arguments place
          return (effect.result, none)

/-- Evaluates a call by name. -/
def call : (supply : Nat) -> String -> List Expr -> Place -> Run Value
  | 0, _, _, place => Run.fail .tooLong place
  | supply + 1, name, expressions, place => do
      let (target, arguments) ←
        match expressions with
        | .named first here :: rest => do
            let others ← evaluateAll supply rest
            let target ← nameTarget first here
            pure (some target, target.value :: others)
        | _ => do
            let arguments ← evaluateAll supply expressions
            pure (none, arguments)
      let given ← Run.surroundings
      match given.program.function? name arguments.length with
      | some function => do
          return (← enter supply function .plain arguments none place).1
      | none =>
          let placeOf (number : Nat) : Place := (expressions[number]?.map Expr.place).getD place
          let misfit (number : Nat) (value : Value) (wanted : String) : Run Value :=
            Run.fail (.mismatch value.typeName wanted) (placeOf number)
          match name, arguments with
          | "call", .callable callee bound :: rest => do
              return (← callValue supply callee bound rest none place).1
          | "call", other :: _ => misfit 0 other "Fn"
          | "curry", .callable callee bound :: first :: rest =>
              return .callable callee (bound ++ first :: rest)
          | "curry", other :: _ :: _ => misfit 0 other "Fn"
          | "Fn", [.text function] =>
              if isFunctionName function then return .callable (.byName function) []
              else Run.fail (.noFunction function) (placeOf 0)
          | "Fn", [other] => misfit 0 other "string"
          | "is_shared", [_] => return .truth (target.bind Target.cell?).isSome
          | "is_def_fn", [.text function, .integer arity] =>
              return .truth
                (decide (0 ≤ arity) && (given.program.function? function arity.toNat).isSome)
          | "is_def_fn", [.text _, other] => misfit 1 other "i64"
          | "is_def_fn", [other, _] => misfit 0 other "string"
          | "is_def_var", [.text known] =>
              return .truth (findVariable known (← Run.memory).visible).isSome
          | "is_def_var", [other] => misfit 0 other "string"
          | _, _ => do
              let effect ← callBuiltIn name arguments place
              match target, effect.changed with
              | some target, some changed =>
                  if target.fixed || target.cell?.isSome then return effect.result
                  else do
                    target.store changed place
                    return effect.result
              | _, _ => return effect.result

/-- Evaluates an open call; one of no function of the script is like any other. -/
def callOpenly : (supply : Nat) -> String -> List Expr -> Place -> Run Value
  | 0, _, _, place => Run.fail .tooLong place
  | supply + 1, name, expressions, place => do
      match (← Run.surroundings).program.function? name expressions.length with
      | some function => do
          let arguments ← evaluateAll supply expressions
          return (← enter supply function .openly arguments none place).1
      | none => call supply name expressions place

/--
Evaluates the body of a function with its parameters as the only variables, unless it is
called openly.  The result comes with what the function has made of the value it is a
method of.
-/
def enter :
    (supply : Nat) -> Function -> Manner -> List Value -> Option Subject -> Place ->
      Run (Value × Option Value)
  | 0, _, _, _, _, place => Run.fail .tooLong place
  | supply + 1, function, manner, arguments, self, place => do
      let before ← Run.memory
      if deepestCall ≤ before.depth then Run.fail .tooDeep place
      else do
        let around := if manner.isOpen then fromAfar before.visible else []
        Run.change fun memory =>
          { memory with
            visible := (function.variables manner.taken arguments).reverse ++ around
            self? := self
            depth := memory.depth + 1 }
        let result ← Run.ending (performAll supply function.body)
        let after ← Run.memory
        Run.change fun memory =>
          { memory with
            visible :=
              if manner.isOpen then rewound before.visible after.visible else before.visible
            self? := before.self?
            depth := before.depth }
        match result with
        | .ok value | .error (.gaveBack value) => return (value, after.self?.map Subject.value)
        | .error (.failed failure) =>
            Run.stop (.failed (failure.throughCall function.name manner.isClosure place))
        | .error _ => return (.unit, after.self?.map Subject.value)

/-- The value of a statement. -/
def perform : (supply : Nat) -> Statement -> Run Value
  | 0, statement => Run.fail .tooLong statement.place
  | supply + 1, statement =>
      match statement with
      | .nothing _ => return .unit
      | .expression e => evaluateAsIs supply e
      | .declare constant name value => do
          let value ← evaluate supply value
          Run.change fun memory => memory.declare name constant value
          return .unit
      | .assign target operator source place => do
          let value ← evaluate supply source
          let assignment : Assignment := ⟨operator, value, place⟩
          match target with
          | .chain root steps => evaluateChain supply root steps (some assignment)
          | other => do
              let found ← rootTarget supply other
              let name := other.name?.getD ""
              assignment.carryOut found name other.place
              if operator.isNone && (← namesConstant source) then
                Run.change fun memory => memory.fix name
              return .unit
      | .block body _ => performBlock supply body
      | .choose condition yes no _ => do
          if ← truthOf (← evaluate supply condition) condition.place then
            performBlock supply yes
          else performBlock supply no
      | .switch subject cases _ => do
          let value ← evaluateAsIs supply subject
          -- What is shared is compared with no pattern.
          if isCell value then performCase supply (defaultCases cases)
          else performCase supply (casesFor value cases)
      | .loop condition body _ => repeatWhile supply condition body
      | .loopAfter body condition again _ => repeatAfter supply body condition again
      | .loopOver name counter subject body _ => do
          let value ← evaluate supply subject
          match seriesOf? value with
          | some series => repeatOver supply name counter series body
          | none => Run.fail .notIterable subject.start
      | .leaveLoop none _ => Run.stop (.leftLoop .unit)
      | .leaveLoop (some value) _ => do Run.stop (.leftLoop (← evaluateAsIs supply value))
      | .nextRound _ => Run.stop .nextRound
      | .giveBack none _ => Run.stop (.gaveBack .unit)
      | .giveBack (some value) _ => do Run.stop (.gaveBack (← evaluate supply value))
      | .throw none place => Run.fail (.thrown .unit) place
      | .throw (some value) place => do Run.fail (.thrown (← evaluate supply value)) place
      | .attempt body caught handler _ => attempt supply body caught handler
      | .fetch path _ => do
          match ← evaluate supply path with
          | .text path' => Run.fail (.noModule path') path.start
          | other => Run.fail (.mismatch other.fullTypeName "string") path.place
      | .offer name _ => do
          match findVariable name.name (← Run.memory).visible with
          | some _ => return .unit
          | none => Run.fail (.noVariable name.name) name.place

/-- The value of the last of several statements. -/
def performAll : (supply : Nat) -> List Statement -> Run Value
  | _, [] => return .unit
  | 0, statement :: _ => Run.fail .tooLong statement.place
  | supply + 1, [last] => perform supply last
  | supply + 1, first :: rest => do
      let _ ← perform supply first
      performAll supply rest

/-- The value of a block. -/
def performBlock : (supply : Nat) -> List Statement -> Run Value
  | 0, _ => Run.fail .tooLong Place.unknown
  | supply + 1, body => Run.inBlock (performAll supply body)

/-- Takes the first case whose condition holds. -/
def performCase : (supply : Nat) -> List Case -> Run Value
  | _, [] => return .unit
  | 0, _ => Run.fail .tooLong Place.unknown
  | supply + 1, .mk _ guard action :: rest => do
      let taken ←
        match guard with
        | none => pure true
        | some condition => truthOf (← evaluate supply condition) condition.place
      if taken then perform supply action else performCase supply rest

/-- One round of a loop: the value with which the loop is left, if it is. -/
def performRound : (supply : Nat) -> List Statement -> Run (Option Value)
  | 0, _ => Run.fail .tooLong Place.unknown
  | supply + 1, body => do
      let result ← Run.ending (performBlock supply body)
      match result with
      | .ok _ | .error .nextRound => return none
      | .error (.leftLoop value) => return some value
      | .error stop => Run.stop stop

/-- A loop with its condition in front, or without one. -/
def repeatWhile : (supply : Nat) -> Option Expr -> List Statement -> Run Value
  | 0, _, _ => Run.fail .tooLong Place.unknown
  | supply + 1, condition, body =>
      Run.repeating supply () fun _ => do
        let again ←
          match condition with
          | none => pure true
          | some condition => truthOf (← evaluate supply condition) condition.place
        if again then do
          match ← performRound supply body with
          | some value => return .error value
          | none => return .ok ()
        else return .error .unit

/-- A loop with its condition behind; a round that is cut short does not look at it. -/
def repeatAfter : (supply : Nat) -> List Statement -> Expr -> Bool -> Run Value
  | 0, _, _, _ => Run.fail .tooLong Place.unknown
  | supply + 1, body, condition, again =>
      Run.repeating supply () fun _ => do
        match ← Run.ending (performBlock supply body) with
        | .error (.leftLoop value) => return .error value
        | .error .nextRound => return .ok ()
        | .error stop => Run.stop stop
        | .ok _ => do
            if (← truthOf (← evaluate supply condition) condition.place) == again then
              return .ok ()
            else return .error .unit

/-- A loop over a series.  Its names are introduced once, and get new values in every round. -/
def repeatOver :
    (supply : Nat) -> String -> Option String -> Series -> List Statement -> Run Value
  | 0, _, _, _, _ => Run.fail .tooLong Place.unknown
  | supply + 1, name, counter, series, body =>
      Run.inBlock do
        Run.change fun memory =>
          let counted :=
            match counter with
            | some counter => memory.declare counter false (.integer 0)
            | none => memory
          counted.declare name false .unit
        Run.repeating supply (0, series) fun ((count, series) : Nat × Series) => do
          match series.next? with
          | none => return .error .unit
          | some (value, rest) => do
              Run.change fun memory =>
                let counted :=
                  match counter with
                  | some counter => memory.write counter (.integer count)
                  | none => memory
                counted.write name value
              match ← performRound supply body with
              | some value => return .error value
              | none => return .ok (count + 1, rest)

/-- Statements whose failures are handled. -/
def attempt :
    (supply : Nat) -> List Statement -> Option String -> List Statement -> Run Value
  | 0, _, _, _ => Run.fail .tooLong Place.unknown
  | supply + 1, body, caught, handler => do
      match ← Run.ending (performBlock supply body) with
      | .error (.failed failure) =>
          if failure.cause.isFinal then Run.stop (.failed failure)
          else do
            let fileName := (← Run.surroundings).program.fileName
            let handled ← Run.ending (Run.inBlock do
              match caught with
              | some name =>
                  Run.change fun memory =>
                    memory.declare name false (failure.caught fileName)
              | none => pure ()
              performBlock supply handler)
            match handled with
            | .ok _ => return .unit
            | .error (.failed { cause := .thrown .unit, place := place, calls := [] }) =>
                Run.stop (.failed { failure with place := place })
            | .error stop => Run.stop stop
      | result => Run.resume result

end

/-! ## Programs -/

/-- The supply of an evaluation. -/
def plenty : Nat := 1000000000000

/-- What an evaluation that leaves a memory comes to: a value, or why it failed. -/
def Stop.outcome (left : Memory) : Except Stop Value -> Except Failure Value
  | .ok value | .error (.gaveBack value) => .ok (left.behind value)
  | .error (.failed failure) => .error failure
  | .error _ => .ok .unit

/-- Notes a constant that a statement outside of functions has introduced. -/
def noteGlobal : Statement -> Run Unit
  | .declare true name _ =>
      Run.change fun memory =>
        match findVariable name memory.visible with
        | some known => { memory with globals := (name, memory.behind known.value) :: memory.globals }
        | none => memory
  | _ => return ()

/-- The value of the last of the statements outside of functions. -/
def performOutermost : List Statement -> Run Value
  | [] => return .unit
  | [last] => perform plenty last
  | first :: rest => do
      let _ ← perform plenty first
      noteGlobal first
      performOutermost rest

/-- Evaluates the statements of a program that are outside of functions. -/
def Program.run (surroundings : Surroundings) (memory : Memory) :
    Dialogue (Except Failure Value × Memory) :=
  (performOutermost surroundings.program.statements surroundings memory).bind
    fun (result, left) => .done (Stop.outcome left result, { left with globals := [] })

/-- The memory that a call from outside begins with: the function sees the variables outside of
functions besides its parameters. -/
def Function.opened (function : Function) (arguments : List Value) (memory : Memory) : Memory :=
  { memory with visible := (function.variables 0 arguments).reverse ++ fromAfar memory.visible }

/-- What a call has introduced, besides as many parameters, when it ends. -/
def Memory.introduced (memory : Memory) (parameters : Nat) (left : Memory) : List Variable :=
  left.visible.take (left.visible.length - (parameters + memory.visible.length))

/--
A memory after a call from outside: the variables there were before it, and in front of them
what the call has introduced, unless that is forgotten.
-/
def Memory.updated (memory : Memory) (rewinds : Bool) (parameters : Nat) (left : Memory) :
    Memory where
  cells := left.cells
  visible :=
    (if rewinds then [] else memory.introduced parameters left) ++
      rewound memory.visible left.visible

/-- Calls a function from outside of the program; what it leaves of the variables outside of
functions is the next memory. -/
def Function.callFromOutside (function : Function) (rewinds : Bool) (arguments : List Value)
    (surroundings : Surroundings) (memory : Memory) :
    Dialogue (Except Failure Value × Memory) :=
  (performAll plenty function.body surroundings (function.opened arguments memory)).bind
    fun (result, left) =>
      .done (Stop.outcome left result, memory.updated rewinds arguments.length left)

end Script
end Landform
