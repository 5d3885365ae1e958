import Landform.Script.Expression
import Landform.Script.Fault

namespace Landform
namespace Script

/-!
Reading a script: from its lexemes to its functions and statements.

The reader keeps track of the names that are local at every point.  It knows so which names
are constants, and which names a closure takes from around it: all that are used inside,
are not introduced there, and are not those of functions read before.

Every function of the reader spends one unit of a supply that is proportional to the number
of lexemes.  Between two lexemes only a bounded number of functions is entered, so the
supply lasts for every script.
-/

/-- What the reader goes on from: the lexemes ahead and the names known so far. -/
structure ReadingState where
  rest : List PlacedLexeme
  locals : List (String × Bool) := []
  free : List PlacedName := []
  functions : List Function := []

/-- A part of the reader. -/
abbrev Reading := StateT ReadingState (Except ReadingFault)

/-- What is allowed at a point of a script. -/
structure Surround where
  outermost : Bool := false
  inLoop : Bool := false
  inFunction : Bool := false
  barSeparates : Bool := false

namespace Lexeme

/-- How a lexeme out of place is shown. -/
def shown : Lexeme -> String
  | integer n => toString n
  | float _ => "number"
  | char c => String.ofList ['\'', c, '\'']
  | text s => "\"" ++ s ++ "\""
  | openText _ => "string"
  | name s | keyword s | reserved s | symbol s => s
  | fault f => f.message
  | stop => "\x7bEOF\x7d"

/-- Whether a lexeme is the given symbol. -/
def isSymbol (lexeme : Lexeme) (spelling : String) : Bool :=
  match lexeme with
  | symbol s => s == spelling
  | _ => false

/-- Whether an expression can begin with a lexeme; what is no lexeme is read to be refused. -/
def startsExpression : Lexeme -> Bool
  | keyword word =>
      ["true", "false", "if", "switch", "while", "loop", "do", "for"].contains word
  | symbol spelling =>
      ["(", "()", "[", "#\x7b", "\x7b", "|", "||", "-", "+", "!", "..", "..="].contains spelling
  | stop => false
  | _ => true

/-- Whether a lexeme is the given keyword. -/
def isKeyword (lexeme : Lexeme) (word : String) : Bool :=
  match lexeme with
  | keyword w => w == word
  | _ => false

/-- The operators that change a variable in place, by their spelling. -/
def assignment? : Lexeme -> Option (Option Operator)
  | symbol "=" => some none
  | symbol "+=" => some (some .add)
  | symbol "-=" => some (some .subtract)
  | symbol "*=" => some (some .multiply)
  | symbol "/=" => some (some .divide)
  | symbol "%=" => some (some .modulo)
  | symbol "**=" => some (some .power)
  | symbol "<<=" => some (some .shiftLeft)
  | symbol ">>=" => some (some .shiftRight)
  | symbol "&=" => some (some .bitAnd)
  | symbol "|=" => some (some .bitOr)
  | symbol "^=" => some (some .bitXor)
  | _ => none

end Lexeme

/-! ## Operators -/

/-- What an operator between two expressions builds. -/
inductive Junction where
  | operator (operator : Operator)
  | both
  | either
  | orElse
  | within
  | notWithin

/-- The operators between expressions, with how tightly they bind. -/
def junctions : List (String × Nat × Junction) :=
  [("||", 30, .either), ("|", 30, .operator .bitOr), ("^", 30, .operator .bitXor),
    ("&&", 60, .both), ("&", 60, .operator .bitAnd),
    ("==", 90, .operator .equal), ("!=", 90, .operator .notEqual),
    ("!in", 110, .notWithin),
    ("<", 130, .operator .less), ("<=", 130, .operator .lessEqual),
    (">", 130, .operator .greater), (">=", 130, .operator .greaterEqual),
    ("??", 135, .orElse),
    ("..", 140, .operator .span), ("..=", 140, .operator .spanThrough),
    ("+", 150, .operator .add), ("-", 150, .operator .subtract),
    ("*", 180, .operator .multiply), ("/", 180, .operator .divide),
    ("%", 180, .operator .modulo),
    ("**", 190, .operator .power),
    ("<<", 210, .operator .shiftLeft), (">>", 210, .operator .shiftRight)]

/-- The operator a lexeme is between two expressions, and how tightly it binds. -/
def Lexeme.junction? : Lexeme -> Option (Nat × Junction)
  | .symbol spelling => junctions.lookup spelling
  | .keyword "in" => some (110, .within)
  | _ => none

/-- How tightly a lexeme binds as an operator; everything else does not bind at all. -/
def Lexeme.binding (lexeme : Lexeme) : Nat :=
  match lexeme.junction? with
  | some (binding, _) => binding
  | none => 0

/-- The binding of the one operator that groups from the right. -/
def rightBinding : Nat := 190

/-! ## Lexemes ahead -/

/-- Fails at a place. -/
def failAt {α : Type} (place : Place) (cause : ReadingCause) : Reading α :=
  throw ⟨cause, place⟩

/-- The lexeme ahead. -/
def peek : Reading PlacedLexeme := do
  match (← get).rest with
  | first :: _ => return first
  | [] => return ⟨.stop, Place.unknown⟩

/-- The lexeme ahead, which is passed; the end of the script is never passed. -/
def next : Reading PlacedLexeme := do
  let state ← get
  match state.rest with
  | first :: second :: rest => do
      set { state with rest := second :: rest }
      return first
  | [last] => return last
  | [] => return ⟨.stop, Place.unknown⟩

/-- Passes a symbol if it is ahead. -/
def passSymbol? (spelling : String) : Reading Bool := do
  if (← peek).lexeme.isSymbol spelling then do
    let _ ← next
    return true
  else return false

/-- Passes a keyword if it is ahead. -/
def passKeyword? (word : String) : Reading Bool := do
  if (← peek).lexeme.isKeyword word then do
    let _ ← next
    return true
  else return false

/-- Fails because of the given lexeme: for its own fault, or else for the given cause. -/
def failFor {α : Type} (found : PlacedLexeme) (cause : ReadingCause) : Reading α :=
  match found.lexeme with
  | .fault fault => failAt found.place (.lexical fault)
  | _ => failAt found.place cause

/-- Passes a symbol that has to come. -/
def needSymbol (spelling purpose : String) : Reading Place := do
  let found ← next
  if found.lexeme.isSymbol spelling then return found.place
  else failFor found (.missing spelling purpose)

/-- Reads the name of a variable. -/
def readVariableName : Reading PlacedName := do
  let found ← next
  match found.lexeme with
  | .name name => return ⟨name, found.place⟩
  | .reserved word =>
      if isProperName word.toList then failAt found.place (.reserved word)
      else failAt found.place .noVariableName
  | _ => failFor found .noVariableName

/-! ## Names -/

/-- Introduces a name. -/
def introduce (name : String) (constant : Bool) : Reading Unit :=
  modify fun state => { state with locals := (name, constant) :: state.locals }

/-- Notes the use of a name, unless it is that of a function read before. -/
def useName (name : String) (place : Place) : Reading Unit :=
  modify fun state =>
    if (state.locals.lookup name).isSome || state.free.any (fun known => known.name == name) ||
        state.functions.any (fun function => function.name == name) then
      state
    else { state with free := state.free ++ [⟨name, place⟩] }

/-- Reads a part whose names are not known behind it. -/
def inScope {α : Type} (part : Reading α) : Reading α := do
  let before := (← get).locals
  let result ← part
  modify fun state => { state with locals := before }
  return result

/-- Whether a name is that of a local constant. -/
def isLocalConstant (name : String) : Reading Bool := do
  return ((← get).locals.lookup name).getD false

/-! ## Checks -/

/-- What an expression that is no truth value is called. -/
def notTruth? : Expr -> Option String
  | .literal value _ =>
      match value with
      | .unit => some "()"
      | .truth _ => none
      | .integer _ => some "a number"
      | .float _ => some "a floating-point number"
      | .char _ => some "a character"
      | .text _ => some "a string"
      | .list _ => some "an array"
      | .record _ => some "an object map"
  | .template .. => some "a string"
  | .list .. => some "an array"
  | .record .. => some "an object map"
  | _ => none

/-- Refuses an expression that cannot have a truth value. -/
def needTruth (expr : Expr) : Reading Unit :=
  match notTruth? expr with
  | some given => failAt expr.start (.mismatch "a boolean expression" given)
  | none => pure ()

/-- What an expression that cannot be gone through is called. -/
def notIterable? : Expr -> Option String
  | .literal value _ =>
      match value with
      | .unit => some "()"
      | .truth _ => some "a boolean"
      | .integer _ => some "a number"
      | .float _ => some "a floating-point number"
      | .char _ => some "a character"
      | .record _ => some "an object map"
      | .text _ | .list _ => none
  | .record .. => some "an object map"
  | _ => none

/-- Refuses an expression that cannot be gone through. -/
def needIterable (expr : Expr) : Reading Unit :=
  match notIterable? expr with
  | some given => failAt expr.start (.mismatch "an iterable value" given)
  | none => pure ()

/-- Refuses a block where an expression is wanted. -/
def refuseBlock : Reading Unit := do
  let ahead ← peek
  if ahead.lexeme.isSymbol "\x7b" then failAt ahead.place (.expected "a boolean") else pure ()

/-- Refuses an assignment where a condition ends. -/
def refuseAssignment : Reading Unit := do
  let ahead ← peek
  if ahead.lexeme.isSymbol "=" then
    failAt ahead.place (.lexical (.misplaced "Possibly a typo of '=='?"))
  else pure ()

/-- What an index that a map cannot have is called. -/
def notMapIndex? : Expr -> Option String
  | .literal value _ =>
      match value with
      | .unit => some "()"
      | .truth _ => some "a boolean"
      | .integer _ => some "a number"
      | .float _ => some "a float"
      | .char _ => some "a character"
      | .text _ | .list _ | .record _ => none
  | .both .. | .either .. => some "a boolean"
  | _ => none

/-- What an index that a list cannot have is called. -/
def notListIndex? : Expr -> Option String
  | .literal value _ =>
      match value with
      | .unit => some "()"
      | .truth _ => some "a boolean"
      | .integer _ => none
      | .float _ => some "a float"
      | .char _ => some "a character"
      | .text _ => some "a string"
      | .list _ | .record _ => none
  | .template .. => some "a string"
  | .both .. | .either .. => some "a boolean"
  | _ => none

/-- Refuses an index that a value written out can never have. -/
def checkIndex (root index : Expr) : Reading Unit :=
  let listLike : Reading Unit :=
    match notListIndex? index with
    | some given =>
        let wanted := if given == "a string" then "numeric" else "integer"
        failAt index.start
          (.badIndex
            ("Array, string or bit-field expects " ++ wanted ++ " index, not " ++ given))
    | none => pure ()
  match root with
  | .record .. =>
      match notMapIndex? index with
      | some given =>
          failAt index.start (.badIndex ("Object map expects string index, not " ++ given))
      | none => pure ()
  | .list .. | .template .. | .literal (.integer _) _ | .literal (.text _) _ => listLike
  | _ => pure ()

/-- The first step that is no place to put a value into. -/
def methodStep? : List Step -> Option Place
  | [] => none
  | .method _ _ _ _ place :: _ => some place
  | _ :: rest => methodStep? rest

/-- Refuses to assign to what cannot be assigned to. -/
def checkTarget (target : Expr) (operator : Option Operator) (place : Place) : Reading Unit := do
  match target with
  | .self _ | .foreign _ _ none _ _ => pure ()
  | .named name here =>
      if ← isLocalConstant name then failAt here (.constant name) else pure ()
  | .chain root steps =>
      match methodStep? steps with
      | some here => failAt here .noTarget
      | none =>
          match root with
          | .named .. | .self _ => pure ()
          | _ => failAt root.place .noTarget
  | .both .. | .either .. | .orElse .. =>
      if operator.isNone then
        failAt place (.lexical (.misplaced "Possibly a typo of '=='?"))
      else failAt target.place .noTarget
  | _ =>
      if target.isConstant then failAt target.start .constantValue
      else failAt target.place .noTarget

/-- The pattern an expression is in a case of a switch. -/
def casePattern? : Expr -> Option CasePattern
  | .binary .span (.literal (.integer low) _) (.literal (.integer high) _) _ =>
      some (.between low high false)
  | .binary .spanThrough (.literal (.integer low) _) (.literal (.integer high) _) _ =>
      some (.between low high true)
  | other => other.literal?.map .value

/-- Whether a pattern is a number. -/
def CasePattern.isNumber : CasePattern -> Bool
  | .value (.integer _) | .value (.float _) => true
  | _ => false

/-- The statements that a statement is made of as the body of a function. -/
def bodyOf : Statement -> List Statement
  | .block body _ => body
  | .nothing _ => []
  | other => [other]

/-- An expression with a minus sign in front. -/
def negated (operand : Expr) (place : Place) : Expr :=
  match operand with
  | .literal (.integer n) _ =>
      if Number.int64.contains (-n) then .literal (.integer (-n)) place
      else .literal (.float (-(Number.floatOfInt n))) place
  | .literal (.float x) _ => .literal (.float (-x)) place
  | other => .sign .minus other place

/-- An expression with a plus sign in front. -/
def affirmed (operand : Expr) (place : Place) : Expr :=
  match operand with
  | .literal (.integer _) _ | .literal (.float _) _ => operand
  | other => .sign .plus other place

/-- The expression that asks whether a value is among others. -/
def membership (item container : Expr) (place : Place) : Expr :=
  .call "contains" [container, item] false place

/-- The expression an operator builds. -/
def joined (junction : Junction) (left right : Expr) (place : Place) : Reading Expr := do
  match junction with
  | .operator operator => return .binary operator left right place
  | .both => do
      needTruth left
      needTruth right
      return .both left right place
  | .either => do
      needTruth left
      needTruth right
      return .either left right place
  | .orElse => return .orElse left right place
  | .within => return membership left right place
  | .notWithin => return .sign .not (membership left right place) place

/-- Fails when a lexeme that is kept free stands where an operator could. -/
def refuseStrangeOperator (found : PlacedLexeme) : Reading Unit :=
  match found.lexeme with
  | .reserved word =>
      if isProperName word.toList then pure () else failAt found.place (.unknownOperator word)
  | _ => pure ()

/-- Whether an operator makes a range, which may go without its upper end. -/
def Junction.makesRange : Junction -> Bool
  | .operator .span | .operator .spanThrough => true
  | _ => false

/-- The upper end of a range that has none: the largest whole number. -/
def openEnd (place : Place) : Expr :=
  .literal (.integer Number.int64.high) place

/-- The words that may be called like methods. -/
def methodWords : List String :=
  ["type_of", "call", "is_def_fn", "curry", "is_shared"]

/-- The name of a type that is given a short one. -/
def typeCalled (name : String) : String :=
  match name with
  | "int" => "i64"
  | "float" => "f64"
  | _ => name

/--
The type in front of the name of a function and the point behind it, if there is one.  It may
be written as a text, behind which there has to be a point.
-/
def readSubjectType : Reading (Option String) := do
  let pass (name : String) : Reading (Option String) := do
    let _ ← next
    let _ ← next
    return some (typeCalled name)
  match (← get).rest with
  | ⟨.text name, _⟩ :: point :: _ =>
      if point.lexeme.isSymbol "." then pass name
      else failAt point.place (.missing "." "after the type name for 'this'")
  | ⟨.name name, _⟩ :: point :: _ =>
      if point.lexeme.isSymbol "." then pass name else return none
  | _ => return none

/-- The words that are taken for names of parameters, and then refused as such. -/
def parameterWords : List String :=
  ["fn", "private", "import", "export", "as", "true", "false", "let", "const", "if", "else", "do",
    "while", "until", "loop", "for", "in", "continue", "break", "return", "throw", "try", "catch"]

/-- The names of the parameters of a function, up to the closing mark. -/
def readParameters (function : String) (close : String) (missingClose missingComma : ReadingCause) :
    (fuel : Nat) -> List String -> Reading (List String)
  | 0, _ => do failAt (← peek).place .tooComplex
  | fuel + 1, known => do
      let found ← next
      if found.lexeme.isSymbol close then return known
      else
        match found.lexeme with
        | .name name =>
            if known.contains name then
              failAt found.place (.repeatedParameter function name)
            else
              let after ← next
              if after.lexeme.isSymbol close then return known ++ [name]
              else if after.lexeme.isSymbol "," then
                readParameters function close missingClose missingComma fuel (known ++ [name])
              else failFor after missingComma
        | .reserved word => failAt found.place (.reserved word)
        | .keyword word =>
            failAt found.place
              (if parameterWords.contains word then .noVariableName else missingClose)
        | _ => failFor found missingClose

/-- The purpose named when the body of a block is cut off. -/
def endsBlock : String := "to terminate this block"

/-- The purpose named when a semicolon is missing. -/
def endsStatement : String := "to terminate this statement"

/-- The purpose named when a list is cut off. -/
def endsList : String := "to end this array literal"

/-- The purpose named when a map is cut off. -/
def endsRecord : String := "to end this object map literal"

/-- The purpose named when a switch is cut off. -/
def endsSwitch : String := "to end this switch block"

/-! ## Expressions and statements -/

mutual

/-- Reads an expression. -/
def readExpr : (fuel : Nat) -> Surround -> Reading Expr
  | 0, _ => do failAt (← peek).place .tooComplex
  | fuel + 1, around => do
      let first ← readSigned fuel around
      readJoined fuel around 1 first

/-- Reads on behind an expression, as long as operators bind it more tightly than given. -/
def readJoined : (fuel : Nat) -> Surround -> (binding : Nat) -> Expr -> Reading Expr
  | 0, _, _, _ => do failAt (← peek).place .tooComplex
  | fuel + 1, around, binding, left => do
      let ahead ← peek
      if around.barSeparates && ahead.lexeme.isSymbol "|" then return left
      else do
        refuseStrangeOperator ahead
        match ahead.lexeme.junction? with
        | none => return left
        | some (here, junction) =>
            if here < binding || (here == binding && here != rightBinding) then return left
            else do
              let _ ← next
              let following := (← peek).lexeme
              let isOpen :=
                junction.makesRange &&
                  (!following.startsExpression || around.barSeparates && following.isSymbol "|")
              let operand ←
                if isOpen then pure (openEnd ahead.place) else readSigned fuel around
              let beyond ← peek
              refuseStrangeOperator beyond
              let there := beyond.lexeme.binding
              let right ←
                if here < there || (here == there && here == rightBinding) then
                  readJoined fuel around here operand
                else pure operand
              let whole ← joined junction left right ahead.place
              readJoined fuel around binding whole

/-- Reads an operand with the signs in front of it. -/
def readSigned : (fuel : Nat) -> Surround -> Reading Expr
  | 0, _ => do failAt (← peek).place .tooComplex
  | fuel + 1, around => do
      let ahead ← peek
      match ahead.lexeme with
      | .symbol "-" => do
          let _ ← next
          return negated (← readSigned fuel around) ahead.place
      | .symbol "+" => do
          let _ ← next
          return affirmed (← readSigned fuel around) ahead.place
      | .symbol "!" => do
          let _ ← next
          return .sign .not (← readSigned fuel around) ahead.place
      | .symbol ".." | .symbol "..=" =>
          -- A range without its lower end begins at zero; its operator is read next.
          return .literal (.integer 0) ahead.place
      | _ => readOperand fuel around

/-- Reads an operand with the steps taken from it. -/
def readOperand : (fuel : Nat) -> Surround -> Reading Expr
  | 0, _ => do failAt (← peek).place .tooComplex
  | fuel + 1, around => do
      let found ← readRoot fuel around
      let ahead ← peek
      -- A name in parentheses is called like one without.
      let root ←
        match found with
        | .named name here =>
            if ["(", "()", "!", "::"].any ahead.lexeme.isSymbol then
              readNamed fuel around name here
            else pure found
        | _ => pure found
      let steps ← readSteps fuel around root []
      return if steps.isEmpty then root else .chain root steps

/-- Reads what steps are taken from. -/
def readRoot : (fuel : Nat) -> Surround -> Reading Expr
  | 0, _ => do failAt (← peek).place .tooComplex
  | fuel + 1, around => do
      let ahead ← peek
      let here := ahead.place
      match ahead.lexeme with
      | .stop => failAt here .incomplete
      | .fault fault => failAt here (.lexical fault)
      | .integer n => do let _ ← next; return .literal (.integer n) here
      | .float x => do let _ ← next; return .literal (.float x) here
      | .char c => do let _ ← next; return .literal (.char c) here
      | .text s => do let _ ← next; return .literal (.text s) here
      | .openText s => do
          let _ ← next
          let parts ← readTemplate fuel around []
          let begun := if s == "" then [] else [Expr.literal (.text s) here]
          return .template (begun ++ parts) here
      | .keyword "true" => do let _ ← next; return .literal (.truth true) here
      | .keyword "false" => do let _ ← next; return .literal (.truth false) here
      | .keyword "if" => return .statement (← readChoice fuel around)
      | .keyword "switch" => return .statement (← readSwitch fuel around)
      | .keyword "while" | .keyword "loop" => return .statement (← readLoop fuel around)
      | .keyword "do" => return .statement (← readLoopAfter fuel around)
      | .keyword "for" => return .statement (← readLoopOver fuel around)
      | .symbol "()" => do let _ ← next; return .literal .unit here
      | .symbol "(" => do
          let _ ← next
          if ← passSymbol? ")" then return .literal .unit here
          else do
            let inner ← readExpr fuel around
            let _ ← needSymbol ")" "for a matching ( in this expression"
            return inner
      | .symbol "\x7b" => do
          return .statement (.block (← readBlock fuel around) here)
      | .symbol "[" => do
          let _ ← next
          return .list (← readItems fuel around []) here
      | .symbol "#\x7b" => do
          let _ ← next
          return .record (← readFields fuel around []) here
      | .symbol "|" | .symbol "||" =>
          if around.barSeparates && ahead.lexeme.isSymbol "|" then
            failAt here (.lexical (.unexpected ahead.lexeme.shown))
          else readClosure fuel around
      | .name name => do
          let _ ← next
          readNamed fuel around name here
      | .reserved word => do
          let _ ← next
          let after ← peek
          let called := ["(", "()", "!"].any after.lexeme.isSymbol
          if called && builtInWords.contains word then readNamed fuel around word here
          else if word == "this" then
            if around.inFunction then return .self here
            else
              failAt here (.lexical (.misplaced "'this' can only be used in functions"))
          else failAt here (.reserved word)
      | lexeme => failAt here (.lexical (.unexpected lexeme.shown))

/-- Reads on behind a name: a call of a function, or else a variable. -/
def readNamed : (fuel : Nat) -> Surround -> String -> Place -> Reading Expr
  | 0, _, _, _ => do failAt (← peek).place .tooComplex
  | fuel + 1, around, name, here => do
      let isOpen ← passSymbol? "!"
      if ← passSymbol? "()" then return .call name [] isOpen here
      else if ← passSymbol? "(" then
        return .call name (← readArguments fuel around name []) isOpen here
      else if isOpen then
        failAt (← peek).place (.missing "(" "to start arguments list of function call")
      else if (← peek).lexeme.isSymbol "::" then readForeign fuel around name here
      else do
        useName name here
        return .named name here

/-- Reads on behind the names of modules: the name of what is in the last of them. -/
def readForeign : (fuel : Nat) -> Surround -> (path : String) -> (origin : Place) -> Reading Expr
  | 0, _, _, _ => do failAt (← peek).place .tooComplex
  | fuel + 1, around, path, origin => do
      let _ ← next
      let inner ← readVariableName
      if (← peek).lexeme.isSymbol "::" then
        readForeign fuel around (path ++ "::" ++ inner.name) origin
      else if ← passSymbol? "()" then return .foreign path inner.name (some []) origin inner.place
      else if ← passSymbol? "(" then do
        let arguments ← readArguments fuel around inner.name []
        return .foreign path inner.name (some arguments) origin inner.place
      else return .foreign path inner.name none origin inner.place

/-- Reads the steps taken from a root; `taken` are those read so far. -/
def readSteps : (fuel : Nat) -> Surround -> Expr -> List Step -> Reading (List Step)
  | 0, _, _, _ => do failAt (← peek).place .tooComplex
  | fuel + 1, around, root, taken => do
      let ahead ← peek
      match ahead.lexeme with
      | .symbol "." => do
          let _ ← next
          let step ← readMember fuel around false ahead.place
          readSteps fuel around root (taken ++ [step])
      | .symbol "?." => do
          let _ ← next
          let step ← readMember fuel around true ahead.place
          readSteps fuel around root (taken ++ [step])
      | .symbol "[" => do
          let _ ← next
          let index ← readIndex fuel around (if taken.isEmpty then some root else none)
          readSteps fuel around root (taken ++ [.index false index ahead.place])
      | .symbol "?[" => do
          let _ ← next
          let index ← readIndex fuel around (if taken.isEmpty then some root else none)
          readSteps fuel around root (taken ++ [.index true index ahead.place])
      | _ => return taken

/-- Reads an index and the bracket behind it. -/
def readIndex : (fuel : Nat) -> Surround -> Option Expr -> Reading Expr
  | 0, _, _ => do failAt (← peek).place .tooComplex
  | fuel + 1, around, root => do
      let index ← readExpr fuel around
      match root with
      | some root => checkIndex root index
      | none => pure ()
      let _ ← needSymbol "]" "for a matching [ in this index expression"
      return index

/-- Reads a property or a method behind a dot. -/
def readMember : (fuel : Nat) -> Surround -> Bool -> Place -> Reading Step
  | 0, _, _, _ => do failAt (← peek).place .tooComplex
  | fuel + 1, around, optional, dot => do
      let found ← peek
      let name ←
        match found.lexeme with
        | .name name => pure name
        | .reserved word =>
            if methodWords.contains word then pure word
            else failAt found.place (.reserved word)
        | _ => failAt found.place .noPropertyName
      let _ ← next
      if ← passSymbol? "()" then return .method optional name [] dot found.place
      else if ← passSymbol? "(" then
        return .method optional name (← readArguments fuel around name []) dot found.place
      else
        let after ← peek
        match found.lexeme with
        | .reserved word =>
            if !after.lexeme.isSymbol "!" then failAt found.place (.reserved word)
            else readScopeCall fuel around name found.place
        | _ =>
            if after.lexeme.isSymbol "!" then readScopeCall fuel around name found.place
            else if after.lexeme.isSymbol "::" then
              failAt after.place (.lexical (.misplaced "Invalid symbol encountered: '::'"))
            else return .property optional name dot found.place

/--
Reads on behind the name of a method: a call that hands over all variables, which no method
can be called with.
-/
def readScopeCall : (fuel : Nat) -> Surround -> String -> Place -> Reading Step
  | 0, _, _, _ => do failAt (← peek).place .tooComplex
  | fuel + 1, around, name, here => do
      let _ ← next
      if ← passSymbol? "()" then failAt here .scopeCall
      else if ← passSymbol? "(" then do
        let _ ← readArguments fuel around name []
        failAt here .scopeCall
      else failAt (← peek).place (.missing "(" "to start arguments list of function call")

/-- Reads the arguments of a call and the parenthesis behind them. -/
def readArguments : (fuel : Nat) -> Surround -> String -> List Expr -> Reading (List Expr)
  | 0, _, _, _ => do failAt (← peek).place .tooComplex
  | fuel + 1, around, function, known => do
      let close := ReadingCause.missing ")"
        ("to close the arguments list of this function call '" ++ function ++ "'")
      if ← passSymbol? ")" then return known
      else do
        let ahead ← peek
        match known, ahead.lexeme with
        | [], .stop => failAt ahead.place close
        | _, _ => do
            let argument ← readExpr fuel around
            let after ← peek
            if after.lexeme.isSymbol ")" then do
              let _ ← next
              return known ++ [argument]
            else if after.lexeme.isSymbol "," then do
              let _ ← next
              readArguments fuel around function (known ++ [argument])
            else
              match after.lexeme with
              | .stop => failAt after.place close
              | _ =>
                  failFor after
                    (.missing ","
                      ("to separate the arguments to function call '" ++ function ++ "'"))

/-- Reads the items of a list and the bracket behind them. -/
def readItems : (fuel : Nat) -> Surround -> List Expr -> Reading (List Expr)
  | 0, _, _ => do failAt (← peek).place .tooComplex
  | fuel + 1, around, known => do
      if ← passSymbol? "]" then return known
      else do
        let ahead ← peek
        match ahead.lexeme with
        | .stop => failAt ahead.place (.missing "]" endsList)
        | _ => do
            let item ← readExpr fuel around
            let after ← peek
            if after.lexeme.isSymbol "," then do
              let _ ← next
              readItems fuel around (known ++ [item])
            else if after.lexeme.isSymbol "]" then readItems fuel around (known ++ [item])
            else
              match after.lexeme with
              | .stop => failAt after.place (.missing "]" endsList)
              | _ => failFor after (.missing "," "to separate the items of this array literal")

/-- Reads the fields of a map and the brace behind them. -/
def readFields :
    (fuel : Nat) -> Surround -> List (String × Expr) -> Reading (List (String × Expr))
  | 0, _, _ => do failAt (← peek).place .tooComplex
  | fuel + 1, around, known => do
      if ← passSymbol? "\x7d" then return known
      else do
        let found ← next
        let name ←
          match found.lexeme with
          | .name name | .text name =>
              if (known.lookup name).isSome then failAt found.place (.repeatedProperty name)
              else pure name
          | .openText _ => failAt found.place .noPropertyName
          | .reserved word =>
              if isProperName word.toList then failAt found.place (.reserved word)
              else if known.isEmpty then failAt found.place (.missing "\x7d" endsRecord)
              else failAt found.place .noPropertyName
          | .stop => failAt found.place (.missing "\x7d" endsRecord)
          | _ =>
              if known.isEmpty then failFor found (.missing "\x7d" endsRecord)
              else failFor found .noPropertyName
        let _ ←
          needSymbol ":" ("to follow the property '" ++ name ++ "' in this object map literal")
        let value ← readExpr fuel around
        let after ← peek
        if after.lexeme.isSymbol "," then do
          let _ ← next
          readFields fuel around (known ++ [(name, value)])
        else if after.lexeme.isSymbol "\x7d" then readFields fuel around (known ++ [(name, value)])
        else
          match after.lexeme with
          | .name _ =>
              failAt after.place
                (.missing "," "to separate the items of this object map literal")
          | _ => failFor after (.missing "\x7d" endsRecord)

/-- Reads the expressions inside a text, and the texts between and behind them. -/
def readTemplate : (fuel : Nat) -> Surround -> List Expr -> Reading (List Expr)
  | 0, _, _ => do failAt (← peek).place .tooComplex
  | fuel + 1, around, known => do
      let here := (← peek).place
      let part := Expr.statement (.block (← readBlock fuel around) here)
      let after ← next
      let grown (s : String) : List Expr :=
        known ++ [part] ++ (if s == "" then [] else [.literal (.text s) after.place])
      match after.lexeme with
      | .text s => return grown s
      | .openText s => readTemplate fuel around (grown s)
      | _ => failFor after (.lexical .openText)

/-- Reads a closure. -/
def readClosure : (fuel : Nat) -> Surround -> Reading Expr
  | 0, _ => do failAt (← peek).place .tooComplex
  | fuel + 1, around => do
      let opening ← next
      let parameters ←
        if opening.lexeme.isSymbol "||" then pure []
        else
          readParameters "" "|"
            (.missing "|" "to close the parameters list of anonymous function or closure")
            (.missing "," "to separate the parameters of anonymous function") fuel []
      let before ← get
      set { before with locals := parameters.map fun name => (name, false), free := [] }
      let body ← readStatement fuel { inFunction := true, barSeparates := around.barSeparates }
      let captured := (← get).free
      modify fun state => { state with locals := before.locals, free := before.free }
      captured.forM fun used => useName used.name used.place
      return .closure (.mk none "" parameters (bodyOf body)) (captured.map fun used => {used}) opening.place

/-- Reads a block with its braces. -/
def readBlock : (fuel : Nat) -> Surround -> Reading (List Statement)
  | 0, _ => do failAt (← peek).place .tooComplex
  | fuel + 1, around => do
      let _ ← needSymbol "\x7b" "to start a statement block"
      inScope (readBody fuel { around with outermost := false } [])

/-- Reads the statements of a block and the brace behind them. -/
def readBody : (fuel : Nat) -> Surround -> List Statement -> Reading (List Statement)
  | 0, _, _ => do failAt (← peek).place .tooComplex
  | fuel + 1, around, known => do
      if ← passSymbol? "\x7d" then return known
      else do
        let ahead ← peek
        match ahead.lexeme with
        | .stop => failAt ahead.place (.missing "\x7d" endsBlock)
        | _ => do
            match ← readStatement fuel around with
            | .nothing _ => readBody fuel around known
            | statement => do
                let after ← peek
                if after.lexeme.isSymbol "\x7d" then do
                  let _ ← next
                  return known ++ [statement]
                else if after.lexeme.isSymbol ";" then do
                  let _ ← next
                  readBody fuel around (known ++ [statement])
                else if statement.endsItself then readBody fuel around (known ++ [statement])
                else failFor after (.missing ";" endsStatement)

/-- Reads a statement. -/
def readStatement : (fuel : Nat) -> Surround -> Reading Statement
  | 0, _ => do failAt (← peek).place .tooComplex
  | fuel + 1, around => do
      let ahead ← peek
      let here := ahead.place
      let inner := { around with outermost := false }
      match ahead.lexeme with
      | .stop => return .nothing here
      | .symbol ";" => do
          let _ ← next
          return .nothing here
      | .symbol "\x7b" => return .block (← readBlock fuel inner) here
      | .keyword "fn" | .keyword "private" => readFunction fuel around
      | .keyword "import" => readFetch fuel inner
      | .keyword "export" =>
          if around.outermost then readOffer fuel inner else failAt here .innerExport
      | .keyword "if" => readChoice fuel inner
      | .keyword "switch" => readSwitch fuel inner
      | .keyword "while" | .keyword "loop" => readLoop fuel inner
      | .keyword "do" => readLoopAfter fuel inner
      | .keyword "for" => readLoopOver fuel inner
      | .keyword "continue" =>
          if around.inLoop then do
            let _ ← next
            return .nextRound here
          else failAt here .outsideLoop
      | .keyword "break" =>
          if around.inLoop then do
            let _ ← next
            return .leaveLoop (← readResult? fuel inner false) here
          else failAt here .outsideLoop
      | .keyword "return" => do
          let _ ← next
          return .giveBack (← readResult? fuel inner around.outermost) here
      | .keyword "throw" => do
          let _ ← next
          return .throw (← readResult? fuel inner around.outermost) here
      | .keyword "try" => readAttempt fuel inner
      | .keyword "let" => readDeclaration fuel inner false
      | .keyword "const" => readDeclaration fuel inner true
      | _ => readExpressionStatement fuel inner

/-- Reads the value behind a word that may go without one. -/
def readResult? : (fuel : Nat) -> Surround -> (outermost : Bool) -> Reading (Option Expr)
  | 0, _, _ => do failAt (← peek).place .tooComplex
  | fuel + 1, around, outermost => do
      let following := (← peek).lexeme
      if following.startsExpression || (outermost && following.isSymbol "\x7d") then
        return some (← readExpr fuel around)
      else return none

/-- Reads the request for another module. -/
def readFetch : (fuel : Nat) -> Surround -> Reading Statement
  | 0, _ => do failAt (← peek).place .tooComplex
  | fuel + 1, around => do
      let opening ← next
      let path ← readExpr fuel around
      if ← passKeyword? "as" then do
        let _ ← readVariableName
        return .fetch path opening.place
      else return .fetch path opening.place

/-- Reads the offer of a name to other modules, or a declaration that is one. -/
def readOffer : (fuel : Nat) -> Surround -> Reading Statement
  | 0, _ => do failAt (← peek).place .tooComplex
  | fuel + 1, around => do
      let opening ← next
      let ahead ← peek
      if ahead.lexeme.isKeyword "let" then readDeclaration fuel around false
      else if ahead.lexeme.isKeyword "const" then readDeclaration fuel around true
      else do
        let name ← readVariableName
        if ← passKeyword? "as" then do
          let _ ← readVariableName
          return .offer name opening.place
        else return .offer name opening.place

/-- Reads an expression that is a statement, or an assignment. -/
def readExpressionStatement : (fuel : Nat) -> Surround -> Reading Statement
  | 0, _ => do failAt (← peek).place .tooComplex
  | fuel + 1, around => do
      let target ← readExpr fuel around
      let ahead ← peek
      match ahead.lexeme.assignment? with
      | none => return .expression target
      | some operator => do
          let _ ← next
          let value ← readExpr fuel around
          checkTarget target operator ahead.place
          return .assign target operator value ahead.place

/-- Reads the declaration of a variable or a constant. -/
def readDeclaration : (fuel : Nat) -> Surround -> (constant : Bool) -> Reading Statement
  | 0, _, _ => do failAt (← peek).place .tooComplex
  | fuel + 1, around, constant => do
      let _ ← next
      let name ← readVariableName
      let value ←
        if ← passSymbol? "=" then readExpr fuel around
        else pure (Expr.literal .unit name.place)
      introduce name.name constant
      return .declare constant name.name value

/-- Reads a choice between two blocks. -/
def readChoice : (fuel : Nat) -> Surround -> Reading Statement
  | 0, _ => do failAt (← peek).place .tooComplex
  | fuel + 1, around => do
      let opening ← next
      refuseBlock
      let condition ← readExpr fuel around
      needTruth condition
      refuseAssignment
      let yes ← readBlock fuel around
      let no ←
        if ← passKeyword? "else" then
          if (← peek).lexeme.isKeyword "if" then pure [← readChoice fuel around]
          else readBlock fuel around
        else pure []
      return .choose condition yes no opening.place

/-- Reads a loop with its condition in front, or without one. -/
def readLoop : (fuel : Nat) -> Surround -> Reading Statement
  | 0, _ => do failAt (← peek).place .tooComplex
  | fuel + 1, around => do
      let opening ← next
      let condition ←
        if opening.lexeme.isKeyword "while" then do
          refuseBlock
          let condition ← readExpr fuel around
          needTruth condition
          refuseAssignment
          pure (some condition)
        else pure none
      let body ← readBlock fuel { around with inLoop := true }
      return .loop condition body opening.place

/-- Reads a loop with its condition behind. -/
def readLoopAfter : (fuel : Nat) -> Surround -> Reading Statement
  | 0, _ => do failAt (← peek).place .tooComplex
  | fuel + 1, around => do
      let opening ← next
      let body ← readBlock fuel { around with inLoop := true }
      let word ← next
      let again ←
        if word.lexeme.isKeyword "while" then pure true
        else if word.lexeme.isKeyword "until" then pure false
        else failAt word.place (.missing "while" "for the do statement")
      refuseBlock
      let condition ← readExpr fuel around
      needTruth condition
      refuseAssignment
      return .loopAfter body condition again opening.place

/-- Reads a loop that goes through the parts of a value. -/
def readLoopOver : (fuel : Nat) -> Surround -> Reading Statement
  | 0, _ => do failAt (← peek).place .tooComplex
  | fuel + 1, around => do
      let opening ← next
      let (name, counter) ←
        if ← passSymbol? "(" then do
          let name ← readVariableName
          if !(← passSymbol? ",") then
            failAt (← peek).place (.missing "," "after the iteration variable name")
          else do
            let counter ← readVariableName
            if counter.name == name.name then
              failAt counter.place (.repeatedName counter.name)
            else if !(← passSymbol? ")") then
              failAt (← peek).place (.missing ")" "to close the iteration variable")
            else pure (name.name, some counter.name)
        else do
          let name ← readVariableName
          pure (name.name, none)
      let word ← next
      if !word.lexeme.isKeyword "in" then
        failFor word (.missing "in" "after the iteration variable")
      else do
        refuseBlock
        let subject ← readExpr fuel around
        needIterable subject
        let body ← inScope do
          match counter with
          | some counter => introduce counter false
          | none => pure ()
          introduce name false
          readBlock fuel { around with inLoop := true }
        return .loopOver name counter subject body opening.place

/-- Reads an attempt and what is done when it fails. -/
def readAttempt : (fuel : Nat) -> Surround -> Reading Statement
  | 0, _ => do failAt (← peek).place .tooComplex
  | fuel + 1, around => do
      let opening ← next
      let body ← readBlock fuel around
      let word ← peek
      if !(← passKeyword? "catch") then
        failAt word.place (.missing "catch" "for the 'try' statement")
      else inScope do
        let caught ←
          if ← passSymbol? "(" then do
            let name ← readVariableName
            let close ← peek
            if !(← passSymbol? ")") then
              failAt close.place (.missing ")" "to enclose the catch variable")
            else do
              introduce name.name false
              pure (some name.name)
          else pure none
        let handler ← readBlock fuel around
        return .attempt body caught handler opening.place

/-- Reads a choice between the cases of a value. -/
def readSwitch : (fuel : Nat) -> Surround -> Reading Statement
  | 0, _ => do failAt (← peek).place .tooComplex
  | fuel + 1, around => do
      let opening ← next
      let subject ← readExpr fuel { around with barSeparates := false }
      let _ ← needSymbol "\x7b" "to start a switch block"
      let cases ← readCases fuel around [] none false
      return .switch subject cases opening.place

/--
Reads the cases of a switch and the brace behind them.  `default` is the place of the case
that is taken when no other is, `ranged` whether a range has been among the patterns.
-/
def readCases :
    (fuel : Nat) -> Surround -> List Case -> Option Place -> Bool -> Reading (List Case)
  | 0, _, _, _, _ => do failAt (← peek).place .tooComplex
  | fuel + 1, around, known, default, ranged => do
      if ← passSymbol? "\x7d" then return known
      else do
        let ahead ← peek
        let (patterns, guard, default) ←
          match ahead.lexeme, default with
          | .stop, _ => failAt ahead.place (.missing "\x7d" endsSwitch)
          | _, some here => failAt here .defaultNotLast
          | .keyword "_", none => do
              let _ ← next
              let word ← peek
              if word.lexeme.isKeyword "if" then failAt word.place .guardedDefault
              else pure ([], none, some ahead.place)
          | _, none => do
              let patterns ← readPatterns fuel around []
              let guard ←
                if ← passKeyword? "if" then do
                  refuseBlock
                  let guard ← readExpr fuel around
                  needTruth guard
                  refuseAssignment
                  pure (some guard)
                else pure none
              pure (patterns, guard, none)
        let _ ← needSymbol "=>" "in this switch case"
        let action ← readStatement fuel { around with barSeparates := false }
        let (values, ranged) ← checkPatterns patterns ranged
        let entry := if patterns.isEmpty || !values.isEmpty then [Case.mk values guard action] else []
        let after ← peek
        if after.lexeme.isSymbol "," then do
          let _ ← next
          readCases fuel around (known ++ entry) default ranged
        else if after.lexeme.isSymbol "\x7d" then
          readCases fuel around (known ++ entry) default ranged
        else
          match after.lexeme with
          | .stop => failAt after.place (.missing "\x7d" endsSwitch)
          | .fault fault => failAt after.place (.lexical fault)
          | _ =>
              if action.endsItself then readCases fuel around (known ++ entry) default ranged
              else
                failAt after.place (.missing "," "to separate the items in this switch block")

/-- Reads the patterns of a case. -/
def readPatterns : (fuel : Nat) -> Surround -> List Expr -> Reading (List Expr)
  | 0, _, _ => do failAt (← peek).place .tooComplex
  | fuel + 1, around, known => do
      let pattern ←
        tryCatch (readExpr fuel { around with barSeparates := true }) fun fault =>
          failAt fault.place (.expected "literal")
      if ← passSymbol? "|" then readPatterns fuel around (known ++ [pattern])
      else return known ++ [pattern]

/-- The values of the patterns of a case. -/
def checkPatterns : List Expr -> Bool -> Reading (List CasePattern × Bool)
  | [], ranged => return ([], ranged)
  | pattern :: rest, ranged => do
      match casePattern? pattern with
      | none => failAt pattern.start (.expected "a literal")
      | some value =>
          if ranged && value.isNumber then failAt pattern.start .numberAfterRange
          else do
            let (values, ranged) ← checkPatterns rest (ranged || value.isRange)
            return (value :: values, ranged)

/-- Reads a function. -/
def readFunction : (fuel : Nat) -> Surround -> Reading Statement
  | 0, _ => do failAt (← peek).place .tooComplex
  | fuel + 1, around => do
      let first ← peek
      if !around.outermost then
        failAt first.place .nestedFunction
      else do
        let hidden ← passKeyword? "private"
        let word ← next
        if hidden && !word.lexeme.isKeyword "fn" then
          failAt word.place (.missing "fn" "following 'private'")
        else do
          let subjectType ← readSubjectType
          let found ← next
          let name ←
            match found.lexeme with
            | .name name => pure name
            | .reserved word => failAt found.place (.reserved word)
            | _ => failAt found.place .noFunctionName
          let parameters ←
            if ← passSymbol? "()" then pure []
            else if ← passSymbol? "(" then
              readParameters name ")"
                (.missing ")" ("to close the parameters list of function '" ++ name ++ "'"))
                (.missing "," ("to separate the parameters of function '" ++ name ++ "'")) fuel []
            else failAt (← peek).place (.noParameters name)
          let ahead ← peek
          if !ahead.lexeme.isSymbol "\x7b" then failAt ahead.place (.noBody name)
          else do
            let before ← get
            set { before with locals := parameters.map fun name => (name, false), free := [] }
            let body ← readBlock fuel { inFunction := true }
            modify fun state => { state with locals := before.locals, free := before.free }
            let function := Function.mk subjectType name parameters body
            if before.functions.any fun known => known.signature == function.signature then
              failAt word.place (.repeatedFunction name parameters.length)
            else do
              modify fun state => { state with functions := function :: state.functions }
              return .nothing word.place

end

/-- Reads the statements outside of functions, up to the end of the script. -/
def readScript : (fuel : Nat) -> List Statement -> Reading (List Statement)
  | 0, _ => do failAt (← peek).place .tooComplex
  | fuel + 1, known => do
      match (← peek).lexeme with
      | .stop => return known
      | _ =>
          match ← readStatement fuel { outermost := true } with
          | .nothing _ => readScript fuel known
          | statement => do
              let after ← peek
              match after.lexeme with
              | .stop => return known ++ [statement]
              | lexeme =>
                  if statement.endsItself then readScript fuel (known ++ [statement])
                  else if lexeme.isSymbol ";" then do
                    let _ ← next
                    readScript fuel (known ++ [statement])
                  else failFor after (.missing ";" endsStatement)

/-- The supply that lasts for reading the given number of lexemes. -/
def readingSupply (count : Nat) : Nat :=
  16 * (count + 4)

/-- The script a text holds. -/
def Program.ofText (fileName source : String) : Except ReadingFault Program :=
  let found := lexemes source
  match (readScript (readingSupply found.length) []).run { rest := found } with
  | .ok (statements, state) =>
      .ok { fileName := fileName, functions := state.functions.reverse, statements := statements }
  | .error fault => .error fault

end Script
end Landform
