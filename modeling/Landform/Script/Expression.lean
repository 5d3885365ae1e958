import Landform.Fault

namespace Landform
namespace Script

/-!
Expressions and statements of map scripts.  Every part knows the place that is reported
when it cannot be evaluated.

Statements are expressions too: a block has the value of its last statement, and a
conditional that of the block it chooses.  What is read from and written to through
properties, indexes and methods is one chain: a root and the steps taken from it.

An open call shows the variables around it to the function.  A function can be kept for
methods on values of one type; it comes before one of its name for all values.

Scripts can name what other modules hold, fetch such modules, and offer names of their own
to them.  There are no other modules here, so the first two always fail, but for the path
`global`, behind which the constants outside of functions are named.
-/

/-- A value that is written out in a script. -/
inductive Literal where
  | unit
  | truth (value : Bool)
  | integer (value : Int)
  | float (value : Float)
  | char (value : Char)
  | text (value : String)
  | list (items : List Literal)
  | record (fields : List (String × Literal))
  deriving Inhabited

/-- The operators that combine two values. -/
inductive Operator where
  | add
  | subtract
  | multiply
  | divide
  | modulo
  | power
  | shiftLeft
  | shiftRight
  | bitAnd
  | bitOr
  | bitXor
  | equal
  | notEqual
  | less
  | lessEqual
  | greater
  | greaterEqual
  | span
  | spanThrough
  deriving DecidableEq, Inhabited

/-- How an operator is written. -/
def Operator.spelling : Operator -> String
  | add => "+"
  | subtract => "-"
  | multiply => "*"
  | divide => "/"
  | modulo => "%"
  | power => "**"
  | shiftLeft => "<<"
  | shiftRight => ">>"
  | bitAnd => "&"
  | bitOr => "|"
  | bitXor => "^"
  | equal => "=="
  | notEqual => "!="
  | less => "<"
  | lessEqual => "<="
  | greater => ">"
  | greaterEqual => ">="
  | span => ".."
  | spanThrough => "..="

/-- Whether an operator can be joined with an assignment. -/
def Operator.joinsAssignment : Operator -> Bool
  | add | subtract | multiply | divide | modulo | power | shiftLeft | shiftRight | bitAnd | bitOr
  | bitXor => true
  | _ => false

/-- The operators on one value. -/
inductive SignOperator where
  | plus
  | minus
  | not
  deriving DecidableEq, Inhabited

/-- How an operator on one value is written. -/
def SignOperator.spelling : SignOperator -> String
  | plus => "+"
  | minus => "-"
  | not => "!"

/-- A name together with the place where it is first used. -/
structure PlacedName where
  name : String
  place : Place
  deriving DecidableEq, Inhabited

/-- A name that a closure takes from around it, with the literal it is known to stand for. -/
structure Capture where
  used : PlacedName
  known? : Option Literal := none
  deriving Inhabited

/-- What a case of a switch stands for: a value, or the integers between two others. -/
inductive CasePattern where
  | value (literal : Literal)
  | between (low high : Int) (inclusive : Bool)
  deriving Inhabited

/-- Whether a pattern stands for a range that is not empty. -/
def CasePattern.isRange : CasePattern -> Bool
  | .between low high inclusive => decide (low < high) || (inclusive && low == high)
  | _ => false

mutual

/-- An expression. -/
inductive Expr where
  | literal (value : Literal) (place : Place)
  | template (parts : List Expr) (place : Place)
  | list (items : List Expr) (place : Place)
  | record (fields : List (String × Expr)) (place : Place)
  | named (name : String) (place : Place)
  | foreign (path name : String) (arguments : Option (List Expr)) (origin place : Place)
  | self (place : Place)
  | sign (operator : SignOperator) (operand : Expr) (place : Place)
  | binary (operator : Operator) (left right : Expr) (place : Place)
  | both (left right : Expr) (place : Place)
  | either (left right : Expr) (place : Place)
  | orElse (left right : Expr) (place : Place)
  | call (name : String) (arguments : List Expr) (isOpen : Bool) (place : Place)
  | chain (root : Expr) (steps : List Step)
  | closure (function : Function) (captured : List Capture) (place : Place)
  | statement (statement : Statement)

/-- A step from a value to a part of it; an optional step stays at a missing value. -/
inductive Step where
  | property (optional : Bool) (name : String) (dot place : Place)
  | method (optional : Bool) (name : String) (arguments : List Expr) (dot place : Place)
  | index (optional : Bool) (index : Expr) (bracket : Place)

/-- A statement. -/
inductive Statement where
  | nothing (place : Place)
  | expression (expression : Expr)
  | declare (constant : Bool) (name : String) (value : Expr)
  | assign (target : Expr) (operator : Option Operator) (value : Expr) (place : Place)
  | block (body : List Statement) (place : Place)
  | choose (condition : Expr) (yes no : List Statement) (place : Place)
  | switch (subject : Expr) (cases : List Case) (place : Place)
  | loop (condition : Option Expr) (body : List Statement) (place : Place)
  | loopAfter (body : List Statement) (condition : Expr) (again : Bool) (place : Place)
  | loopOver (name : String) (counter : Option String) (subject : Expr) (body : List Statement)
      (place : Place)
  | leaveLoop (value : Option Expr) (place : Place)
  | nextRound (place : Place)
  | giveBack (value : Option Expr) (place : Place)
  | throw (value : Option Expr) (place : Place)
  | attempt (body : List Statement) (caught : Option String) (handler : List Statement)
      (place : Place)
  | fetch (path : Expr) (place : Place)
  | offer (name : PlacedName) (place : Place)

/-- A case of a switch; the case without patterns is taken when no other is. -/
inductive Case where
  | mk (patterns : List CasePattern) (guard : Option Expr) (action : Statement)

/--
A function: the type of the values it is a method of, if it is one for such values only, its
name, its parameters, and its body.
-/
inductive Function where
  | mk (subjectType : Option String) (name : String) (parameters : List String)
      (body : List Statement)

end

instance : Inhabited Expr :=
  ⟨.literal .unit Place.unknown⟩

instance : Inhabited Statement :=
  ⟨.nothing Place.unknown⟩

instance : Inhabited Function :=
  ⟨.mk none "" [] []⟩

namespace Function

/-- The type of the values that a function is kept for. -/
def subjectType : Function -> Option String
  | mk subjectType _ _ _ => subjectType

/-- The name of a function. -/
def name : Function -> String
  | mk _ name _ _ => name

/-- The parameters of a function. -/
def parameters : Function -> List String
  | mk _ _ parameters _ => parameters

/-- The body of a function. -/
def body : Function -> List Statement
  | mk _ _ _ body => body

/-- The number of parameters. -/
def arity (function : Function) : Nat :=
  function.parameters.length

end Function

namespace Statement

/-- The place of a statement that stands for an expression. -/
def place : Statement -> Place
  | nothing place | assign _ _ _ place | block _ place | choose _ _ _ place | switch _ _ place
  | loop _ _ place | loopAfter _ _ _ place | loopOver _ _ _ _ place | leaveLoop _ place
  | nextRound place | giveBack _ place | throw _ place | attempt _ _ _ place | fetch _ place
  | offer _ place => place
  | expression _ | declare _ _ _ => Place.unknown

/-- Whether a statement needs no semicolon behind it. -/
def endsItself : Statement -> Bool
  | block .. | choose .. | switch .. | loop .. | loopOver .. | attempt .. => true
  | _ => false

end Statement

namespace Step

/-- The place of the mark that introduces a step. -/
def mark : Step -> Place
  | property _ _ dot _ | method _ _ _ dot _ => dot
  | index _ _ bracket => bracket

end Step

namespace Expr

/-- The place reported for a value of an expression that does not fit. -/
def place : Expr -> Place
  | literal _ place | template _ place | list _ place | record _ place | named _ place
  | foreign _ _ _ _ place | self place | sign _ _ place | binary _ _ _ place | both _ _ place
  | either _ _ place | orElse _ _ place | call _ _ _ place | closure _ _ place => place
  | chain root steps =>
      match steps with
      | step :: _ => step.mark
      | [] => root.place
  | statement body => body.place

/-- The place where an expression begins. -/
def start : Expr -> Place
  | both left _ _ | either left _ _ | orElse left _ _ => left.start
  | chain root _ => root.start
  | foreign _ _ _ origin _ => origin
  | other => other.place

mutual

/-- Whether an expression is written out in full. -/
def isConstant : Expr -> Bool
  | literal _ _ => true
  | template parts _ => allConstant parts
  | list items _ => allConstant items
  | record fields _ => allFieldsConstant fields
  | closure _ captured _ => captured.isEmpty
  | _ => false

/-- Whether all expressions are written out in full. -/
def allConstant : List Expr -> Bool
  | [] => true
  | first :: rest => first.isConstant && allConstant rest

/-- Whether all fields are written out in full. -/
def allFieldsConstant : List (String × Expr) -> Bool
  | [] => true
  | (_, first) :: rest => first.isConstant && allFieldsConstant rest

end

mutual

/-- The literal an expression is, with lists and maps of literals. -/
def literal? : Expr -> Option Literal
  | literal value _ => some value
  | list items _ => (allLiterals? items).map .list
  | record fields _ => (allLiteralFields? fields).map .record
  | _ => none

/-- The literals expressions are. -/
def allLiterals? : List Expr -> Option (List Literal)
  | [] => some []
  | first :: rest => do
      let value ← first.literal?
      return value :: (← allLiterals? rest)

/-- The literals that the fields of a map are. -/
def allLiteralFields? : List (String × Expr) -> Option (List (String × Literal))
  | [] => some []
  | (name, first) :: rest => do
      let value ← first.literal?
      return (name, value) :: (← allLiteralFields? rest)

end

/-- The name of an expression that names a variable. -/
def name? : Expr -> Option String
  | named name _ | foreign _ name none _ _ => some name
  | _ => none

end Expr

/--
What tells functions apart: a name, a number of parameters, and the type of the values they
are kept for.
-/
structure Signature where
  name : String
  arity : Nat
  subjectType : Option String := none
  deriving DecidableEq, Inhabited

/-- What tells a function apart. -/
def Function.signature (function : Function) : Signature where
  name := function.name
  arity := function.arity
  subjectType := function.subjectType

/-- A script: its functions, and the statements outside of them. -/
structure Program where
  fileName : String := ""
  functions : List Function := []
  statements : List Statement := []

namespace Program

/-- The script without functions and statements. -/
def empty : Program := {}

instance : Inhabited Program :=
  ⟨empty⟩

/-- The function of a signature. -/
def functionOf? (program : Program) (signature : Signature) : Option Function :=
  program.functions.find? fun function => function.signature == signature

/-- The function of a name and a number of parameters that is for all values. -/
def function? (program : Program) (name : String) (arity : Nat) : Option Function :=
  program.functionOf? { name, arity }

/-- The function of a name and a number of parameters that is a method of a type. -/
def method? (program : Program) (subjectType name : String) (arity : Nat) : Option Function :=
  (program.functionOf? { name, arity, subjectType := some subjectType }).or
    (program.function? name arity)

/-- Whether a script defines a function. -/
def defines (program : Program) (signature : Signature) : Bool :=
  (program.functionOf? signature).isSome

/--
A script followed by another: its statements come first, and where both define a function
the definition of the later one counts, which also gives its file name to both.
-/
def followedBy (first second : Program) : Program where
  fileName := second.fileName
  functions :=
    second.functions ++
      first.functions.filter fun function => !second.defines function.signature
  statements := first.statements ++ second.statements

end Program

end Script
end Landform
