import Landform.Script.Library
import Landform.Script.Pattern

namespace Landform
namespace Script

/-!
Simplification of scripts before they are evaluated.  Operators between literals are
carried out, constants that stand for literals are replaced by them, and statements are
left out that nothing can depend on.

The bodies of closures stay as they are.

An expression is pure when it can be left out.  A variable is pure even if it does not
exist, so a script that only names a missing variable, and does not use it, has no fault.

Leaving out a statement may make another one the last of its block, and the last one
may then be left out too.  A block is therefore tidied until nothing changes.
-/

/-! ## Pure expressions and statements -/

/-- Whether a range is written out in full. -/
def isWrittenRange (operator : Operator) (left right : Expr) : Bool :=
  match operator, left, right with
  | .span, .literal (.integer _) _, .literal (.integer _) _ => true
  | .spanThrough, .literal (.integer _) _, .literal (.integer _) _ => true
  | _, _, _ => false

mutual

/-- Whether an expression can be left out. -/
def Expr.isPure : Expr -> Bool
  | .literal _ _ | .named _ _ | .foreign _ _ none _ _ => true
  | .template parts _ => allPure parts
  | .list items _ => allPure items
  | .record fields _ => allFieldsPure fields
  | .binary operator left right _ => isWrittenRange operator left right
  | .both left right _ | .either left right _ | .orElse left right _ =>
      left.isPure && right.isPure
  | .closure _ captured _ => captured.isEmpty
  | .statement body => body.isPure
  | _ => false

/-- Whether all expressions can be left out. -/
def allPure : List Expr -> Bool
  | [] => true
  | first :: rest => first.isPure && allPure rest

/-- Whether all fields can be left out. -/
def allFieldsPure : List (String × Expr) -> Bool
  | [] => true
  | (_, first) :: rest => first.isPure && allFieldsPure rest

/-- Whether a statement can be left out; a loop only if it is certain to end. -/
def Statement.isPure : Statement -> Bool
  | .nothing _ => true
  | .expression e => e.isPure
  | .block body _ => allStatementsPure body
  | .choose condition yes no _ =>
      condition.isPure && allStatementsPure yes && allStatementsPure no
  | .switch subject cases _ =>
      subject.isPure && allCasesPure cases && !(defaultCases cases).isEmpty
  | .loop (some (.literal (.truth false) _)) _ _ => true
  | .loopAfter body (.literal (.truth value) _) again _ =>
      value != again && allStatementsPure body
  | .loopOver _ _ subject body _ => subject.isPure && allStatementsPure body
  | .attempt body _ handler _ => allStatementsPure body && allStatementsPure handler
  | _ => false

/-- Whether all statements can be left out. -/
def allStatementsPure : List Statement -> Bool
  | [] => true
  | first :: rest => first.isPure && allStatementsPure rest

/-- Whether a condition that may be missing can be left out. -/
def isGuardPure : Option Expr -> Bool
  | none => true
  | some condition => condition.isPure

/-- Whether all cases can be left out. -/
def allCasesPure : List Case -> Bool
  | [] => true
  | .mk _ guard action :: rest => isGuardPure guard && action.isPure && allCasesPure rest

end

mutual

/-- Whether a statement can be left out at the end of a block that hides its names. -/
def Statement.isInwardlyPure : Statement -> Bool
  | .declare _ _ value => value.isPure
  | .fetch path _ => path.isPure
  | .offer _ _ => true
  | .expression (.statement body) => body.isInwardlyPure
  | .block body _ => allInwardlyPure body
  | other => other.isPure

/-- Whether all statements can be left out at the end of a block that hides its names. -/
def allInwardlyPure : List Statement -> Bool
  | [] => true
  | first :: rest => first.isInwardlyPure && allInwardlyPure rest

end

/-! ## Blocks -/

/-- Whether a statement leaves the block it stands in. -/
def Statement.leaves : Statement -> Bool
  | .leaveLoop .. | .nextRound .. | .giveBack .. | .throw .. => true
  | _ => false

/-- Whether a statement has to do with the names of the block it stands in. -/
def Statement.declares : Statement -> Bool
  | .declare .. | .fetch .. | .offer .. => true
  | _ => false

/-- Whether a statement has a value to be returned at the end of a block. -/
def Statement.returnsValue : Statement -> Bool
  | .choose .. | .switch .. | .block .. | .expression .. => true
  | _ => false

mutual

/-- The statements a statement of a block stands for: those of an inner block without names. -/
def opened : Statement -> List Statement
  | .block body place => if body.any Statement.declares then [.block body place] else allOpened body
  | other => [other]

/-- The statements that the statements of a block stand for. -/
def allOpened : List Statement -> List Statement
  | [] => []
  | first :: rest => opened first ++ allOpened rest

end

/-- The statements up to the first that leaves the block. -/
def upToLeaving : List Statement -> List Statement
  | [] => []
  | first :: rest => if first.leaves then [first] else first :: upToLeaving rest

/-- Whether a statement can be left out at the end of a block; an inner one hides its names. -/
def isIdle (inner : Bool) (statement : Statement) : Bool :=
  if inner then statement.isInwardlyPure else statement.isPure

/-- Whether statements before this one have to keep the names they introduce. -/
def holdsNames (inner : Bool) (statement : Statement) : Bool :=
  if !isIdle inner statement then true
  else
    match statement with
    | .declare _ _ value => value.isConstant
    | .fetch path _ => !path.isConstant
    | .expression e => !e.isConstant
    | _ => false

/-- The place of the last statement that holds the names before it. -/
def lastHolding (inner : Bool) : List Statement -> Nat
  | [] => 0
  | _ :: rest =>
      if rest.any (holdsNames inner) then lastHolding inner rest + 1 else 0

/-- Leaves out statements; the last one is kept where its value is wanted. -/
def pruneFrom (inner keep : Bool) (holding : Nat) :
    (place : Nat) -> List Statement -> List Statement
  | _, [] => []
  | place, statement :: rest =>
      let others := pruneFrom inner keep holding (place + 1) rest
      let idle :=
        statement.isPure || (inner && decide (holding ≤ place) && statement.isInwardlyPure)
      if idle && !(keep && rest.isEmpty) then others else statement :: others

/--
Leaves out idle statements from the last on, in a list that begins with the last one.  Where
the value of the block is wanted, a statement with a value stays, and so does what stands
between such a statement and the end of the block.
-/
def trimmed (inner keep : Bool) : List Statement -> List Statement
  | [] => []
  | [only] => if isIdle inner only && !(keep && only.returnsValue) then [] else [only]
  | last :: before :: others =>
      if isIdle inner last && !(keep && last.returnsValue) then
        if keep && before.returnsValue then .nothing last.place :: before :: others
        else trimmed inner keep (before :: others)
      else last :: before :: others

/-- Leaves out, once, the statements of a block that nothing depends on. -/
def tidiedOnce (inner keep : Bool) (statements : List Statement) : List Statement :=
  let pruned := pruneFrom inner keep (lastHolding inner statements) 0 statements
  (trimmed inner keep pruned.reverse).reverse

/-- How much of a block could still be left out: it does not count a last empty statement. -/
def looseness (statements : List Statement) : Nat :=
  match statements.getLast? with
  | some (.nothing _) => 2 * statements.length
  | _ => 2 * statements.length + 1

/-- Leaves out statements of a block until nothing changes. -/
def tidiedFully (inner keep : Bool) (statements : List Statement) : List Statement :=
  let once := tidiedOnce inner keep statements
  if looseness once < looseness statements then tidiedFully inner keep once else once
termination_by looseness statements

/-- The statements of a block without those that nothing depends on. -/
def tidied (inner keep : Bool) (statements : List Statement) : List Statement :=
  tidiedFully inner keep (upToLeaving (allOpened statements))

/-- A block of simple statements; a single one needs no block unless it introduces a name. -/
def blockOf (statements : List Statement) (place : Place) : Statement :=
  match statements with
  | [] => .nothing place
  | [only] => if only.declares then .block [only] place else only
  | several => .block several place

/-! ## Expressions -/

/-- The literal a value is written as. -/
def literalOf? : Value -> Option Literal
  | .unit => some .unit
  | .truth value => some (.truth value)
  | .integer value => some (.integer value)
  | .float value => some (.float value)
  | .char value => some (.char value)
  | .text value => some (.text value)
  | _ => none

/-- Whether a literal is neither a list nor a map. -/
def Literal.isSingle : Literal -> Bool
  | .list _ | .record _ => false
  | _ => true

/-- An operator between two expressions, carried out if both are literals. -/
def folded (operator : Operator) (left right : Expr) (place : Place) : Expr :=
  let unfolded := Expr.binary operator left right place
  match left, right with
  | .literal x _, .literal y _ =>
      if x.isSingle && y.isSingle then
        match combine operator x.toValue y.toValue with
        | some (.ok value) =>
            match literalOf? value with
            | some literal => .literal literal place
            | none => unfolded
        | _ => unfolded
      else unfolded
  | _, _ => unfolded

/-- An operator on an expression, carried out if it turns a literal condition around. -/
def turned (operator : SignOperator) (operand : Expr) (place : Place) : Expr :=
  match operator, operand with
  | .not, .literal (.truth value) _ => .literal (.truth !value) place
  | _, _ => .sign operator operand place

/-- Two conditions that both have to hold. -/
def bothOf (left right : Expr) (place : Place) : Expr :=
  match left, right with
  | .literal (.truth true) _, other => other
  | .literal (.truth false) here, _ => .literal (.truth false) here
  | other, .literal (.truth true) _ => other
  | other, .literal (.truth false) here =>
      if other.isPure then .literal (.truth false) here else .both left right place
  | _, _ => .both left right place

/-- Two conditions one of which has to hold. -/
def eitherOf (left right : Expr) (place : Place) : Expr :=
  match left, right with
  | .literal (.truth false) _, other => other
  | .literal (.truth true) here, _ => .literal (.truth true) here
  | other, .literal (.truth false) _ => other
  | other, .literal (.truth true) here =>
      if other.isPure then .literal (.truth true) here else .either left right place
  | _, _ => .either left right place

/-- A value with another in its place if it is missing. -/
def orElseOf (left right : Expr) (place : Place) : Expr :=
  match left with
  | .literal .unit _ => right
  | .literal _ _ => left
  | _ => .orElse left right place

/-- The texts of parts of a text that are literals. -/
def literalTexts? : List Expr -> Option (List String)
  | [] => some []
  | first :: rest => do
      let value ← first.literal?
      return value.toValue.shownText :: (← literalTexts? rest)

/-- A text of several parts, which are simple already. -/
def templateOf (parts : List Expr) (place : Place) : Expr :=
  match literalTexts? parts with
  | some texts => .literal (.text (String.join texts)) place
  | none => .template parts place

/-- An expression that is reported at another place. -/
def Expr.movedTo (place : Place) : Expr -> Expr
  | .literal value _ => .literal value place
  | .template parts _ => .template parts place
  | .list items _ => .list items place
  | .record fields _ => .record fields place
  | .named name _ => .named name place
  | .foreign path name arguments origin _ => .foreign path name arguments origin place
  | .binary operator left right _ => .binary operator left right place
  | .both left right _ => .both left right place
  | .either left right _ => .either left right place
  | .orElse left right _ => .orElse left right place
  | .closure function captured _ => .closure function captured place
  | other => other

/-- The part of a list, a map, a text or a number that a step leads to, if that is certain. -/
def partOf? : Expr -> Step -> Option Expr
  | .record fields place, .property _ name _ _
  | .record fields place, .index _ (.literal (.text name) _) _ =>
      if allFieldsPure fields then
        some (((fields.lookup name).getD (.literal .unit place)).movedTo place)
      else none
  | .list items place, .index _ (.literal (.integer n) _) _ =>
      if allPure items then do
        let position ← indexIn items.length n
        return (← items[position]?).movedTo place
      else none
  | .literal (.text s) place, .index _ (.literal (.integer n) _) _ => do
      let position ← indexIn s.length n
      return .literal (.char (← s.toList[position]?)) place
  | .literal (.integer bits) place, .index _ (.literal (.integer n) _) _ => do
      let position ← indexIn 64 n
      return .literal (.truth (bits / Int.pow 2 position % 2 == 1)) place
  | _, _ => none

/-- A chain whose root and steps are simple already. -/
def chainOf (root : Expr) (steps : List Step) : Expr :=
  match steps with
  | [step] => (partOf? root step).getD (.chain root steps)
  | _ => .chain root steps

/-- An expression made of a statement that is simple already. -/
def expressionOf (statement : Statement) : Expr :=
  match tidied true true [statement] with
  | [] => .literal .unit statement.place
  | [.expression e] => e
  | [only] => .statement only
  | several => .statement (.block several statement.place)

/-! ## Statements -/

/-- A choice whose condition and blocks are simple already. -/
def choiceOf (keep : Bool) (condition : Expr) (yes no : List Statement) (place : Place) :
    Statement :=
  match condition with
  | .literal (.truth true) _ => blockOf yes place
  | .literal (.truth false) _ => blockOf no place
  | _ =>
      if yes.isEmpty && no.isEmpty then
        if keep then .block [.expression condition, .nothing place] place
        else .expression condition
      else .choose condition yes no place

/-- The actions of the first of several cases. -/
def firstAction (cases : List Case) : List Statement :=
  match cases with
  | .mk _ _ action :: _ => [action]
  | [] => []

/-- The condition of a case. -/
def Case.guard? : Case -> Option Expr
  | .mk _ guard _ => guard

/-- Whether a case is never taken. -/
def Case.isNever (entry : Case) : Bool :=
  match entry.guard? with
  | some (.literal (.truth false) _) => true
  | _ => false

/-- What becomes of a switch if its first fitting case is known. -/
def entering (keep : Bool) (entry : Case) (cases : List Case) (place : Place) : Statement :=
  let otherwise := firstAction (defaultCases cases)
  match entry with
  | .mk _ none action => action
  | .mk _ (some condition) action =>
      choiceOf keep condition (tidied true keep [action]) (tidied true keep otherwise) place

/-- What becomes of a switch on a known value, if that is certain before it is evaluated. -/
def decided? (keep : Bool) (subject : Value) (cases : List Case) (place : Place) :
    Option Statement :=
  match casesBy (CasePattern.isNamed subject) cases with
  | [entry] => some (entering keep entry cases place)
  | [] =>
      let ranges := casesBy CasePattern.isRange cases
      if decide (ranges.length ≤ 1) || ranges.all fun entry => entry.guard?.isNone then
        match casesBy (CasePattern.isBetween subject) cases with
        | entry :: _ => some (entering keep entry cases place)
        | [] => some (blockOf (firstAction (defaultCases cases)) place)
      else none
  | _ => none

/-- A switch whose subject and cases are simple already; `written` is its subject as it was. -/
def switchOf (keep : Bool) (written subject : Expr) (cases : List Case) (place : Place) :
    Statement :=
  let reachable := if written.literal?.isSome then cases else cases.filter fun entry => !entry.isNever
  let undecided := Statement.switch subject reachable place
  match subject.literal? with
  | some value => (decided? keep value.toValue reachable place).getD undecided
  | none => undecided

/-- A loop whose condition and body are simple already. -/
def loopOf (condition : Option Expr) (body : List Statement) (place : Place) : Statement :=
  match condition with
  | some (.literal (.truth false) _) => .nothing place
  | some (.literal (.truth true) _) => .loop none body place
  | _ => .loop condition body place

/-- An attempt whose blocks are simple already; a pure one cannot fail. -/
def attemptOf (body : List Statement) (caught : Option String) (handler : List Statement)
    (place : Place) : Statement :=
  if allStatementsPure body then blockOf body place else .attempt body caught handler place

/-- A statement made of a simple expression. -/
def statementOf : Expr -> Statement
  | .statement statement => statement
  | e => .expression e

/-- A body that ends by giving back a value ends with the value itself. -/
def endingInValue (body : List Statement) : List Statement :=
  match body.getLast? with
  | some (.giveBack (some value) _) => body.dropLast ++ [statementOf value]
  | _ => body

/-! ## Simplification -/

/-- The condition of a case without one that always holds. -/
def guardOf (guard : Option Expr) : Option Expr :=
  match guard with
  | some (.literal (.truth true) _) => none
  | other => other

/-- What is known of the names of a script: the literal a name stands for, if it does. -/
abbrev KnownNames := List (String × Option Literal)

/-- What is known after a statement. -/
def knownAfter (known : KnownNames) : Statement -> KnownNames
  | .declare true name value => (name, value.literal?) :: known
  | .declare false name _ => (name, none) :: known
  | _ => known

/-- A name taken into a closure, with what is known of it. -/
def Capture.knowing (known : KnownNames) (taken : Capture) : Capture :=
  { taken with known? := (known.lookup taken.used.name).join }

mutual

/-- An expression made simple. -/
def Expr.simplified (known : KnownNames) : Expr -> Expr
  | .literal value place => .literal value place
  | .template parts place => templateOf (simplifiedAll known parts) place
  | .list items place => .list (simplifiedAll known items) place
  | .record fields place => .record (simplifiedFields known fields) place
  | .named name place =>
      match known.lookup name with
      | some (some value) => .literal value place
      | _ => .named name place
  | .foreign path name arguments origin place =>
      .foreign path name (simplifiedArguments known arguments) origin place
  | .self place => .self place
  | .sign operator operand place => turned operator (operand.simplified known) place
  | .binary operator left right place =>
      folded operator (left.simplified known) (right.simplified known) place
  | .both left right place => bothOf (left.simplified known) (right.simplified known) place
  | .either left right place => eitherOf (left.simplified known) (right.simplified known) place
  | .orElse left right place => orElseOf (left.simplified known) (right.simplified known) place
  | .call name arguments isOpen place => .call name (simplifiedAll known arguments) isOpen place
  | .chain (.named name place) steps => .chain (.named name place) (simplifiedSteps known steps)
  | .chain root steps => chainOf (root.simplified known) (simplifiedSteps known steps)
  | .closure function captured place =>
      .closure function (captured.map (Capture.knowing known)) place
  | .statement statement => expressionOf (statement.simplified known true)

/-- Expressions made simple. -/
def simplifiedAll (known : KnownNames) : List Expr -> List Expr
  | [] => []
  | first :: rest => first.simplified known :: simplifiedAll known rest

/-- An expression that may be missing, made simple. -/
def simplifiedOption (known : KnownNames) : Option Expr -> Option Expr
  | none => none
  | some e => some (e.simplified known)

/-- Arguments that may be missing, made simple. -/
def simplifiedArguments (known : KnownNames) : Option (List Expr) -> Option (List Expr)
  | none => none
  | some arguments => some (simplifiedAll known arguments)

/-- Fields made simple. -/
def simplifiedFields (known : KnownNames) : List (String × Expr) -> List (String × Expr)
  | [] => []
  | (name, first) :: rest => (name, first.simplified known) :: simplifiedFields known rest

/-- Steps made simple. -/
def simplifiedSteps (known : KnownNames) : List Step -> List Step
  | [] => []
  | .property optional name dot place :: rest =>
      .property optional name dot place :: simplifiedSteps known rest
  | .method optional name arguments dot place :: rest =>
      .method optional name (simplifiedAll known arguments) dot place ::
        simplifiedSteps known rest
  | .index optional index bracket :: rest =>
      .index optional (index.simplified known) bracket :: simplifiedSteps known rest

/-- A statement made simple; `keep` tells whether its value may be wanted. -/
def Statement.simplified (known : KnownNames) (keep : Bool) : Statement -> Statement
  | .nothing place => .nothing place
  | .expression (.statement statement) => statement.simplified known keep
  | .expression e => statementOf (e.simplified known)
  | .declare constant name value => .declare constant name (value.simplified known)
  | .assign (.named name place) none (.binary operator (.named other there) right here) mark =>
      if name == other && operator.joinsAssignment then
        .assign (.named name place) (some operator) (right.simplified known) here
      else
        .assign (.named name place) none
          (folded operator ((Expr.named other there).simplified known) (right.simplified known)
            here) mark
  | .assign (.named name place) operator value mark =>
      .assign (.named name place) operator (value.simplified known) mark
  | .assign target operator value mark =>
      .assign (target.simplified known) operator (value.simplified known) mark
  | .block body place => blockOf (tidied true keep (simplifiedBody known keep body)) place
  | .choose condition yes no place =>
      choiceOf keep (condition.simplified known)
        (tidied true keep (simplifiedBody known keep yes))
        (tidied true keep (simplifiedBody known keep no)) place
  | .switch subject cases place =>
      switchOf keep subject (subject.simplified known) (simplifiedCases known cases) place
  | .loop condition body place =>
      loopOf (simplifiedOption known condition)
        (tidied true false (simplifiedBody known false body)) place
  | .loopAfter body condition again place =>
      .loopAfter (tidied true false (simplifiedBody known false body))
        (condition.simplified known) again place
  | .loopOver name counter subject body place =>
      .loopOver name counter (subject.simplified known)
        (tidied true false (simplifiedBody known false body)) place
  | .leaveLoop value place => .leaveLoop (simplifiedOption known value) place
  | .nextRound place => .nextRound place
  | .giveBack value place => .giveBack (simplifiedOption known value) place
  | .throw value place => .throw (simplifiedOption known value) place
  | .attempt body caught handler place =>
      attemptOf (tidied true false (simplifiedBody known false body)) caught
        (tidied true false (simplifiedBody known false handler)) place
  | .fetch path place => .fetch (path.simplified known) place
  | .offer name place => .offer name place

/-- The statements of a block made simple one by one. -/
def simplifiedBody (known : KnownNames) (keep : Bool) : List Statement -> List Statement
  | [] => []
  | first :: rest =>
      let simple := first.simplified known keep
      simple :: simplifiedBody (knownAfter known simple) keep rest

/-- Cases made simple. -/
def simplifiedCases (known : KnownNames) : List Case -> List Case
  | [] => []
  | .mk patterns guard action :: rest =>
      .mk patterns (guardOf (simplifiedOption known guard)) (action.simplified known true) ::
        simplifiedCases known rest

/-- A function made simple. -/
def Function.simplified : Function -> Function
  | .mk subjectType name parameters body =>
      .mk subjectType name parameters (endingInValue (tidied false true (simplifiedBody [] true body)))

end

/-- A script made simple. -/
def Program.simplified (program : Program) : Program where
  fileName := program.fileName
  functions := program.functions.map Function.simplified
  statements := endingInValue (tidied false true (simplifiedBody [] true program.statements))

end Script
end Landform
