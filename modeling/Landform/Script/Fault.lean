import Landform.Script.Lexeme

namespace Landform
namespace Script

/-!
Why a script cannot be read: a cause and the place where it shows.
-/

/-- The cause of a reading fault. -/
inductive ReadingCause where
  | lexical (fault : LexicalFault)
  | incomplete
  | missing (what purpose : String)
  | noFunctionName
  | noParameters (function : String)
  | noBody (function : String)
  | repeatedParameter (function parameter : String)
  | repeatedFunction (function : String) (arity : Nat)
  | nestedFunction
  | repeatedProperty (property : String)
  | repeatedName (name : String)
  | noVariableName
  | noPropertyName
  | expected (what : String)
  | mismatch (wanted given : String)
  | badIndex (message : String)
  | constantValue
  | constant (name : String)
  | noTarget
  | reserved (word : String)
  | unknownOperator (operator : String)
  | outsideLoop
  | innerExport
  | guardedDefault
  | defaultNotLast
  | numberAfterRange
  | scopeCall
  | tooComplex
  deriving DecidableEq, Inhabited

namespace ReadingCause

/-- The end of the sentence about a function that is there already. -/
def parameterCount : Nat -> String
  | 0 => "no parameters already exists"
  | 1 => "1 parameter already exists"
  | count => s!"{count} parameters already exists"

/-- The wording of a cause. -/
def message : ReadingCause -> String
  | lexical fault => fault.message
  | incomplete => "Script is incomplete"
  | missing what purpose => "Expecting '" ++ what ++ "' " ++ purpose
  | noFunctionName => "Expecting function name in function declaration"
  | noParameters function => "Expecting parameters for function " ++ function
  | noBody function => "Expecting body statement block for function " ++ function
  | repeatedParameter function parameter =>
      "Duplicated parameter " ++ parameter ++ " for function " ++ function
  | repeatedFunction function arity =>
      "Function " ++ function ++ " with " ++ parameterCount arity
  | nestedFunction =>
      "Function definitions must be at global level and cannot be inside a block or another function"
  | repeatedProperty property => "Duplicated property for object map literal: " ++ property
  | repeatedName name => "Duplicated variable name: " ++ name
  | noVariableName => "Expecting name of a variable"
  | noPropertyName => "Expecting name of a property"
  | expected what => "Expecting " ++ what ++ " expression"
  | mismatch wanted given => "Expecting " ++ wanted ++ ", not " ++ given
  | badIndex message => message
  | constantValue => "Cannot assign to a constant value"
  | constant name => "Cannot assign to constant " ++ name
  | noTarget => "Expression cannot be assigned to"
  | reserved word =>
      if isProperName word.toList then "'" ++ word ++ "' is a reserved keyword"
      else "'" ++ word ++ "' is a reserved symbol"
  | unknownOperator operator => "Unknown operator: " ++ operator
  | outsideLoop => "Break statement should only be used inside a loop"
  | innerExport => "Export statement can only appear at global level"
  | guardedDefault => "This switch case cannot have a condition"
  | defaultNotLast => "Default switch case must be the last"
  | numberAfterRange => "Numeric switch case cannot follow a range case"
  | scopeCall => "method-call style does not support running within the caller's scope"
  | tooComplex => "Expression exceeds maximum complexity"

end ReadingCause

/-- The words for a place of a script, set off from what is before them. -/
def placeWords (place : Place) : String :=
  if place == Place.unknown then "" else s!" (line {place.line}, position {place.column})"

/-- Why a script cannot be read. -/
structure ReadingFault where
  cause : ReadingCause
  place : Place
  deriving DecidableEq, Inhabited

namespace ReadingFault

/-- The wording of a fault. -/
def message (fault : ReadingFault) : String :=
  fault.cause.message ++ placeWords fault.place

end ReadingFault

end Script
end Landform
