import Landform.Fault
import Landform.Number.Floating
import Landform.Number.Decimal

namespace Landform
namespace Script

/-!
The lexemes of map scripts: numbers, characters, texts, names, keywords and symbols, each
with the place where it begins.  Comments may be nested and, like blanks, only separate
lexemes.

A text between back quotes may hold expressions.  It is scanned as the text up to the first
expression, the lexemes of the expression in braces, the text up to the next expression,
and so on.  Scanning stops at the first fault, which becomes the last lexeme but one; the
last lexeme is always the end of the script.
-/

/-- Why a stretch of a script is no lexeme. -/
inductive LexicalFault where
  | unexpected (found : String)
  | openText
  | badEscape (found : String)
  | badNumber (found : String)
  | badChar (found : String)
  | badName (found : String)
  | misplaced (advice : String)
  deriving DecidableEq, Inhabited

namespace LexicalFault

/-- The wording of a fault. -/
def message : LexicalFault -> String
  | unexpected found => "Unexpected '" ++ found ++ "'"
  | openText => "Open string is not terminated"
  | badEscape found => "Invalid escape sequence: '" ++ found ++ "'"
  | badNumber found => "Invalid number: '" ++ found ++ "'"
  | badChar found => "Invalid character: '" ++ found ++ "'"
  | badName found => "Variable name is not proper: '" ++ found ++ "'"
  | misplaced advice => advice

end LexicalFault

/-- A lexeme. -/
inductive Lexeme where
  | integer (value : Int)
  | float (value : Float)
  | char (value : Char)
  | text (value : String)
  | openText (value : String)
  | name (name : String)
  | keyword (word : String)
  | reserved (word : String)
  | symbol (spelling : String)
  | fault (fault : LexicalFault)
  | stop
  deriving Inhabited

/-- A lexeme and where it begins. -/
structure PlacedLexeme where
  lexeme : Lexeme
  place : Place
  deriving Inhabited

/-! ## Words -/

/-- The words with a meaning of their own. -/
def keywords : List String :=
  ["let", "const", "if", "else", "switch", "do", "while", "until", "loop", "for", "in", "fn",
    "private", "return", "break", "continue", "throw", "try", "catch", "import", "export", "as",
    "true", "false", "_"]

/-- The words that name functions built into the language. -/
def builtInWords : List String :=
  ["print", "debug", "type_of", "eval", "Fn", "call", "curry", "is_def_fn", "is_def_var",
    "is_shared"]

/-- The words kept free for later use. -/
def spareWords : List String :=
  ["this", "public", "protected", "super", "new", "use", "module", "package", "var", "static",
    "shared", "with", "is", "goto", "match", "case", "default", "void", "null", "nil", "spawn",
    "thread", "go", "sync", "async", "await", "yield"]

/-- Whether a character may begin a word. -/
def isLetter (c : Char) : Bool :=
  c.isAlpha

/-- Whether a character may continue a word. -/
def isWordChar (c : Char) : Bool :=
  c.isAlphanum || c == '_'

/-- Whether a word can be a name: its first character that is no underscore is a letter. -/
def isProperName (word : List Char) : Bool :=
  match word.dropWhile fun c => c == '_' with
  | c :: _ => isLetter c
  | [] => false

/-- The lexeme of a word. -/
def wordLexeme (chars : List Char) : Lexeme :=
  let word := String.ofList chars
  if keywords.contains word then .keyword word
  else if builtInWords.contains word || spareWords.contains word then .reserved word
  else if isProperName chars then .name word
  else .fault (.badName word)

/-- Whether a text is the name of a function. -/
def isFunctionName (name : String) : Bool :=
  match wordLexeme name.toList with
  | .name _ => name.toList.all isWordChar
  | _ => false

/-! ## Symbols -/

/-- The symbols of the language, longer ones before those they begin with. -/
def symbols : List String :=
  ["**=", "<<=", ">>=", "..=",
    "+=", "-=", "*=", "**", "/=", "%=", "<<", ">>", "<=", ">=", "==", "!=", "=>", "||", "|=", "&&",
    "&=", "^=", "..", "::", "()", "#\x7b", "?.", "??", "?[",
    "+", "-", "*", "/", "%", "<", ">", "=", "!", "|", "&", "^", ".", ":", ";", ",", "(", ")", "[",
    "]", "\x7b", "\x7d"]

/-- Symbols that belong to other languages, with the advice given about them. -/
def strangeSymbols : List (String × Option String) :=
  [("===", some "'===' is not a valid operator. This is not JavaScript! Should it be '=='?"),
    ("!==", some "'!==' is not a valid operator. This is not JavaScript! Should it be '!='?"),
    ("...", none),
    ("::<", some "'::<>' is not a valid symbol. This is not Rust! Should it be '::'?"),
    ("# \x7b", some "'#' is not a valid symbol. Should it be '#\x7b'?"),
    ("->", some "'->' is not a valid symbol. This is not C or C++!"),
    ("<-", some "'<-' is not a valid symbol. This is not Go! Should it be '<='?"),
    (":=",
      some "':=' is not a valid assignment operator. This is not Go or Pascal! Should it be simply '='?"),
    (":;", some "':;' is not a valid symbol. Should it be '::'?"),
    ("(*", some "'(* .. *)' is not a valid comment format. This is not Pascal! Should it be '/* .. */'?"),
    ("*)", some "'(* .. *)' is not a valid comment format. This is not Pascal! Should it be '/* .. */'?"),
    ("++", none), ("--", none), ("<|", none), ("|>", none), ("!.", none), ("#!", none),
    ("~", none), ("@", none), ("$", none), ("#", none), ("?", none)]

/-- Whether a text begins with a spelling; if so, what follows it. -/
def afterSpelling? : List Char -> List Char -> Option (List Char)
  | [], rest => some rest
  | c :: spelling, d :: rest => if c == d then afterSpelling? spelling rest else none
  | _ :: _, [] => none

/-- The strange symbol a text begins with. -/
def strangeSymbol? (cs : List Char) : Option (Lexeme × String) :=
  strangeSymbols.findSome? fun (spelling, advice) =>
    if (afterSpelling? spelling.toList cs).isSome then
      some
        (match advice with
          | some advice => .fault (.misplaced advice)
          | none => .reserved spelling,
          spelling)
    else none

/-- Whether a text begins with the operator `!in` as a word of its own. -/
def startsNotIn : List Char -> Bool
  | '!' :: 'i' :: 'n' :: rest =>
      match rest with
      | c :: _ => !isWordChar c
      | [] => true
  | _ => false

/-- The symbol a text begins with, and its spelling. -/
def symbol? (cs : List Char) : Option (Lexeme × String) :=
  if startsNotIn cs then some (.symbol "!in", "!in")
  else
    match strangeSymbol? cs with
    | some found =>
        -- A longer symbol of the language wins over a strange one it begins with.
        match symbols.find? fun s => (afterSpelling? s.toList cs).isSome with
        | some spelling =>
            if spelling.length > found.2.length then some (.symbol spelling, spelling)
            else some found
        | none => some found
    | none =>
        (symbols.find? fun s => (afterSpelling? s.toList cs).isSome).map fun spelling =>
          (.symbol spelling, spelling)

/-! ## Numbers -/

/-- A number as far as it has been scanned, its characters the last first. -/
structure NumberScan where
  base : Nat := 10
  chars : List Char := []
  hasPoint : Bool := false
  hasPower : Bool := false

/-- The base a letter behind a leading zero announces. -/
def announcedBase? (c : Char) : Option Nat :=
  match c.toLower with
  | 'x' => some 16
  | 'o' => some 8
  | 'b' => some 2
  | _ => none

/-- What a point behind digits is. -/
inductive PointRole where
  | fraction
  | loneFraction
  | other

/--
The role of a point behind digits, told by what follows it: it opens a fraction before a
digit, stands for a fraction of zero before a symbol, a blank or the end of the script, and
else belongs to a property or a range.
-/
def pointRole : List Char -> PointRole
  | [] => .loneFraction
  | c :: _ =>
      if c.isDigit then .fraction
      else if c == '_' || c == '.' || isLetter c then .other
      else .loneFraction

/-- Whether what follows an `e` makes it the mark of an exponent. -/
def opensPower : List Char -> Bool
  | c :: _ => c.isDigit || c == '+' || c == '-'
  | [] => false

/-- Whether a character is taken for a digit; digits too large for the base are found later. -/
def NumberScan.takes (scan : NumberScan) (c : Char) : Bool :=
  if scan.base == 16 then (Number.digitIn 16 c).isSome else c.isDigit

/-- Whether a number of base ten may still get a point: before it has one, or an exponent. -/
def NumberScan.takesPoint (scan : NumberScan) : Bool :=
  scan.base == 10 && !scan.hasPoint && !scan.hasPower

/-- Whether a number of base ten may still get an exponent. -/
def NumberScan.takesPower (scan : NumberScan) : Bool :=
  scan.base == 10 && !scan.hasPower

/--
Scans a number; the result holds the number and the text behind it.  A second point, or a
second exponent, belongs to what follows the number.
-/
def scanNumber : NumberScan -> List Char -> NumberScan × List Char
  | scan, [] => (scan, [])
  | scan, c :: rest =>
      if c == '_' then scanNumber scan rest
      else if scan.takes c then scanNumber { scan with chars := c :: scan.chars } rest
      else if c == '.' && scan.takesPoint then
        match pointRole rest with
        | .fraction => scanNumber { scan with chars := '.' :: scan.chars, hasPoint := true } rest
        | .loneFraction =>
            scanNumber { scan with chars := '0' :: '.' :: scan.chars, hasPoint := true } rest
        | .other => (scan, c :: rest)
      else if (c == 'e' || c == 'E') && scan.takesPower && opensPower rest then
        match _shape : rest with
        | sign :: more =>
            if sign.isDigit then
              scanNumber { scan with chars := c :: scan.chars, hasPower := true } rest
            else scanNumber { scan with chars := sign :: c :: scan.chars, hasPower := true } more
        | [] => (scan, [c])
      else if scan.chars == ['0'] && (announcedBase? c).isSome then
        scanNumber { scan with base := (announcedBase? c).getD 10, chars := c :: scan.chars } rest
      else (scan, c :: rest)
termination_by _ cs => cs.length
decreasing_by all_goals grind

/-- The number of 64 bits that a pattern of 64 bits stands for. -/
def wrapped (n : Int) : Int :=
  n.bmod 18446744073709551616

/--
The lexeme of a scanned number.  A base is announced by two characters, which are left out
before the digits are read; with a sign in front they are not the two to leave out, so a
negative number is always one of base ten.
-/
def NumberScan.lexeme (negative : Bool) (scan : NumberScan) : Lexeme :=
  let chars := if negative then '-' :: scan.chars.reverse else scan.chars.reverse
  if scan.base == 10 then
    let digits := String.ofList chars
    match Number.readDecimal? Number.int64 digits with
    | some n => .integer n
    | none =>
        match Number.readFloat? digits with
        | some x => .float x
        | none => .fault (.badNumber digits)
  else
    let digits := String.ofList (chars.drop 2)
    match Number.readInBase Number.nat64 scan.base digits with
    | .ok n => .integer (wrapped n)
    | .error _ => .fault (.badNumber digits)

/-! ## Texts -/

/-- How a kind of text is scanned. -/
structure TextStyle where
  quote : Char
  verbatim : Bool
  continues : Bool
  holdsExpressions : Bool

/-- A text between double quotes. -/
def plainStyle : TextStyle := ⟨'"', false, true, false⟩

/-- A text between back quotes. -/
def templateStyle : TextStyle := ⟨'`', true, false, true⟩

/-- A character between single quotes. -/
def charStyle : TextStyle := ⟨'\'', false, false, false⟩

/-- What ended the scan of a text. -/
inductive TextStop where
  | closed
  | expression
  | fault (fault : LexicalFault) (place : Place)

/-- A text as far as it has been scanned; `place` is that of the next character. -/
structure TextScan where
  stop : TextStop
  value : List Char
  place : Place
  rest : List Char

/-- The place one column on. -/
def nextColumn (place : Place) : Place :=
  ⟨place.line, place.column + 1⟩

/-- The place some columns on. -/
def columnsOn (place : Place) (count : Nat) : Place :=
  ⟨place.line, place.column + count⟩

/-- The beginning of the next line. -/
def nextLine (place : Place) : Place :=
  ⟨place.line + 1, 1⟩

/-- The number of digits of a numbered escape, by its letter. -/
def escapeWidth? : Char -> Option Nat
  | 'x' => some 2
  | 'u' => some 4
  | 'U' => some 8
  | _ => none

/-- The letters that stand for a character behind a backslash. -/
def letterEscape? : Char -> Option Char
  | 't' => some '\t'
  | 'n' => some '\n'
  | 'r' => some '\r'
  | '\\' => some '\\'
  | _ => none

/-- What a numbered escape comes to. -/
inductive EscapeScan where
  | char (value : Char)
  | bad (found : List Char) (offset : Nat)

/--
Reads the digits of a numbered escape: how many are wanted, the value so far, the escape
as far as it has been seen (the last character first), and how many columns that are.
-/
def scanEscape : Nat -> Nat -> List Char -> Nat -> List Char -> EscapeScan
  | 0, value, seen, offset, _ =>
      if h : value.isValidChar then .char (Char.ofNatAux value h) else .bad seen.reverse offset
  | _ + 1, _, seen, offset, [] => .bad seen.reverse offset
  | wanted + 1, value, seen, offset, c :: rest =>
      match Number.digitIn 16 c with
      | some digit => scanEscape wanted (value * 16 + digit) (c :: seen) (offset + 1) rest
      | none => .bad (c :: seen).reverse (offset + 1)

/--
Scans a text.  `opening` is where the text begins, `skip` how far blanks are skipped after
a continued line, and `value` what has been scanned, the last character first.  A carriage
return before a line feed counts for nothing, behind a backslash too.
-/
def scanText (style : TextStyle) (opening : Place) :
    (fuel : Nat) -> (skip : Nat) -> (value : List Char) -> Place -> List Char -> TextScan
  | 0, _, value, place, rest => ⟨.fault .openText opening, value, place, rest⟩
  | _ + 1, _, value, place, [] => ⟨.fault .openText opening, value, place, []⟩
  | fuel + 1, skip, value, place, c :: rest =>
      let after := nextColumn place
      let keep (d : Char) (place : Place) (rest : List Char) :=
        scanText style opening fuel 0 (d :: value) place rest
      let keepEscaped (d : Char) (place : Place) (rest : List Char) :=
        scanText style opening fuel skip (d :: value) place rest
      if style.holdsExpressions && c == '$' && rest.head? == some '\x7b' then
        ⟨.expression, value, after, rest⟩
      else if c == style.quote then
        if rest.head? == some style.quote then keep c (nextColumn after) (rest.drop 1)
        else ⟨.closed, value, after, rest⟩
      else if c == '\r' && rest.head? == some '\n' then
        scanText style opening fuel skip value after rest
      else if c == '\\' && !style.verbatim then
        match rest with
        | [] => ⟨.fault .openText opening, value, after, []⟩
        | '\r' :: '\n' :: more =>
            if style.continues then
              scanText style opening fuel (opening.column + 1) value (nextLine after) more
            else ⟨.fault .openText opening, value, after, more⟩
        | d :: more =>
            match letterEscape? d with
            | some e => keepEscaped e (nextColumn after) more
            | none =>
                match escapeWidth? d with
                | some width =>
                    match scanEscape width 0 [d, '\\'] 1 more with
                    | .char e => keepEscaped e (columnsOn after (width + 1)) (more.drop width)
                    | .bad found offset =>
                        ⟨.fault (.badEscape (String.ofList found)) (columnsOn place offset), value,
                          after, more⟩
                | none =>
                    if d == style.quote then keepEscaped d (nextColumn after) more
                    else if d == '\n' && style.continues then
                      scanText style opening fuel (opening.column + 1) value (nextLine after) more
                    else if d == '\n' then ⟨.fault .openText opening, value, after, more⟩
                    else
                      ⟨.fault (.badEscape (String.ofList ['\\', d])) after, value, after, more⟩
      else if c == '\n' then
        if style.verbatim then keep c (nextLine place) rest
        else ⟨.fault .openText opening, value, place, c :: rest⟩
      else if Text.isBlank c && place.column < skip then
        scanText style opening fuel skip value after rest
      else keep c after rest

/-! ## Raw texts -/

/-- The hash signs a text begins with, and what is behind them. -/
def takeHashes : List Char -> Nat × List Char
  | '#' :: rest => ((takeHashes rest).1 + 1, (takeHashes rest).2)
  | rest => (0, rest)

/--
Scans a raw text behind its opening quote: up to a quote with the given number of hash signs
behind it.  Nothing in it is an escape.
-/
def scanRaw (hashes : Nat) (opening : Place) : (value : List Char) -> Place -> List Char -> TextScan
  | value, place, [] => ⟨.fault .openText opening, value, place, []⟩
  | value, place, '\n' :: rest => scanRaw hashes opening ('\n' :: value) (nextLine place) rest
  | value, place, c :: rest =>
      if c == '"' && (List.replicate hashes '#').isPrefixOf rest then
        ⟨.closed, value, columnsOn place (hashes + 1), rest.drop hashes⟩
      else scanRaw hashes opening (c :: value) (nextColumn place) rest

/-! ## Blanks and comments -/

/-- Whether a character separates lexemes without being one. -/
def isSeparator (c : Char) : Bool :=
  c == ' ' || c == '\t' || c == '\r' || c == '\x0c'

/-- Passes a comment that ends with its line. -/
def passLineComment : Place -> List Char -> Place × List Char
  | place, [] => (place, [])
  | place, '\n' :: rest => (nextLine place, rest)
  | place, '\r' :: '\n' :: rest => (nextLine place, rest)
  | place, '\r' :: rest => (nextLine place, rest)
  | place, _ :: rest => passLineComment (nextColumn place) rest

/-- Passes a comment at the given depth of nesting; an open comment reaches to the end. -/
def passBlockComment : (depth : Nat) -> Place -> List Char -> Place × List Char
  | 0, place, rest => (place, rest)
  | _ + 1, place, [] => (place, [])
  | depth + 1, place, '/' :: '*' :: rest => passBlockComment (depth + 2) (columnsOn place 2) rest
  | depth + 1, place, '*' :: '/' :: rest => passBlockComment depth (columnsOn place 2) rest
  | depth + 1, place, '\n' :: rest => passBlockComment (depth + 1) (nextLine place) rest
  | depth + 1, place, _ :: rest => passBlockComment (depth + 1) (nextColumn place) rest
termination_by _ _ rest => rest.length

/-! ## Scripts -/

/-- The symbols behind which a minus sign may be that of a number. -/
def signSymbols : List String :=
  [";", ":", ",", "..", "..=", "\x7b", "(", "[", "?[", "=", "!", "!in",
    "+", "-", "*", "/", "%", "**", "<<", ">>", "&", "|", "^", "&&", "||",
    "==", "!=", "<", "<=", ">", ">=",
    "+=", "-=", "*=", "/=", "%=", "**=", "<<=", ">>=", "&=", "|=", "^="]

/-- The keywords behind which a minus sign may be that of a number. -/
def signKeywords : List String :=
  ["if", "while", "until", "in", "return", "throw"]

/-- Whether a minus sign behind a lexeme is that of a number. -/
def allowsSign : Option Lexeme -> Bool
  | none | some (.fault _) => true
  | some (.symbol s) => signSymbols.contains s
  | some (.keyword w) => signKeywords.contains w
  | some _ => false

/--
How many braces are open in every expression inside a text, the innermost expression
first.
-/
abbrev OpenBraces := List Nat

/-- The lexemes found so far, the last first, with what the scan goes on from. -/
structure ScriptScan where
  found : List PlacedLexeme := []
  braces : OpenBraces := []
  place : Place
  rest : List Char

namespace ScriptScan

/-- Adds a lexeme. -/
def add (scan : ScriptScan) (lexeme : Lexeme) (place : Place) : List PlacedLexeme :=
  ⟨lexeme, place⟩ :: scan.found

/-- Ends the scan with a fault. -/
def fail (scan : ScriptScan) (fault : LexicalFault) (place : Place) : ScriptScan :=
  { scan with found := scan.add (.fault fault) place, rest := [] }

/-- Goes on behind a lexeme of one line. -/
def pass (scan : ScriptScan) (lexeme : Lexeme) (width : Nat) (rest : List Char) : ScriptScan :=
  { scan with
    found := scan.add lexeme scan.place, place := columnsOn scan.place width, rest := rest }

/-- Goes on behind a text or the beginning of one. -/
def passText (scan : ScriptScan) (opening : Place) (text : TextScan) : ScriptScan :=
  let value := String.ofList text.value.reverse
  match text.stop with
  | .closed =>
      { scan with found := scan.add (.text value) opening, place := text.place, rest := text.rest }
  | .expression =>
      { scan with
        found := scan.add (.openText value) opening
        braces := 0 :: scan.braces, place := text.place, rest := text.rest }
  | .fault fault place => scan.fail fault place

/-- Goes on with a text between back quotes, whose first line may be empty. -/
def template (scan : ScriptScan) (rest : List Char) : ScriptScan :=
  let after := nextColumn scan.place
  let (place, rest) :=
    match rest with
    | '\r' :: '\n' :: more => (nextLine after, more)
    | '\r' :: more => (nextLine after, more)
    | '\n' :: more => (nextLine after, more)
    | _ => (after, rest)
  scan.passText scan.place
    (scanText templateStyle scan.place (rest.length + 1) 0 [] place rest)

/-- Goes on with a raw text, which begins with one hash sign or more. -/
def rawText (scan : ScriptScan) : ScriptScan :=
  let (hashes, rest) := takeHashes scan.rest
  match rest with
  | '"' :: more =>
      scan.passText scan.place
        (scanRaw hashes scan.place [] (columnsOn scan.place (hashes + 1)) more)
  | c :: _ => scan.fail (.unexpected (String.singleton c)) scan.place
  | [] => scan.fail .openText scan.place

/-- Goes on with a character between single quotes. -/
def character (scan : ScriptScan) (rest : List Char) : ScriptScan :=
  if rest.head? == some '\'' then scan.fail (.badChar "") scan.place
  else
    let text :=
      scanText charStyle scan.place (rest.length + 1) 0 [] (nextColumn scan.place) rest
    match text.stop with
    | .fault fault place => scan.fail fault place
    | _ =>
        match text.value with
        | [c] =>
            { scan with
              found := scan.add (.char c) scan.place, place := text.place, rest := text.rest }
        | value => scan.fail (.badChar (String.ofList value.reverse)) scan.place

/-- Goes on with a number whose digits begin the given text. -/
def number (scan : ScriptScan) (negative : Bool) (cs : List Char) : ScriptScan :=
  let (number, rest) := scanNumber {} cs
  let width := cs.length - rest.length + (if negative then 1 else 0)
  match number.lexeme negative with
  | .fault fault => scan.fail fault scan.place
  | lexeme => scan.pass lexeme width rest

/-- Counts a brace that opens. -/
def openBrace (scan : ScriptScan) : ScriptScan :=
  match scan.braces with
  | [] => scan
  | count :: outer => { scan with braces := (count + 1) :: outer }

/-- Counts a brace that closes; the last one of an expression is followed by more text. -/
def closeBrace (scan : ScriptScan) : ScriptScan :=
  match scan.braces with
  | [] => scan
  | count :: outer =>
      if count ≤ 1 then
        let next := { scan with braces := outer }
        -- More text begins with its first character; without one it is nowhere.
        let opening := if scan.rest.isEmpty then Place.unknown else scan.place
        next.passText scan.place
          (scanText templateStyle opening (scan.rest.length + 1) 0 [] scan.place scan.rest)
      else { scan with braces := (count - 1) :: outer }

/-- Goes on with a symbol. -/
def symbol (scan : ScriptScan) (c : Char) : ScriptScan :=
  match symbol? scan.rest with
  | some (.fault fault, _) => scan.fail fault scan.place
  | some (lexeme, spelling) =>
      let next := scan.pass lexeme spelling.length (scan.rest.drop spelling.length)
      if spelling == "\x7b" || spelling == "#\x7b" then next.openBrace
      else if spelling == "\x7d" then next.closeBrace
      else next
  | none => scan.fail (.unexpected (String.singleton c)) scan.place

/-- Goes on with what the rest begins with. -/
def step (scan : ScriptScan) : ScriptScan :=
  match scan.rest with
  | [] => scan
  | '\n' :: rest => { scan with place := nextLine scan.place, rest := rest }
  | '/' :: '/' :: rest =>
      let (place, rest) := passLineComment (columnsOn scan.place 2) rest
      { scan with place := place, rest := rest }
  | '/' :: '*' :: rest =>
      let (place, rest) := passBlockComment 1 (columnsOn scan.place 2) rest
      { scan with place := place, rest := rest }
  | c :: rest =>
      if c.isDigit then scan.number false (c :: rest)
      else if isLetter c || c == '_' then
        let word := (c :: rest).takeWhile isWordChar
        match wordLexeme word with
        | .fault fault => scan.fail fault scan.place
        | lexeme => scan.pass lexeme word.length ((c :: rest).dropWhile isWordChar)
      else if c == '"' then
        scan.passText scan.place
          (scanText plainStyle scan.place (rest.length + 1) 0 [] (nextColumn scan.place) rest)
      else if c == '`' then scan.template rest
      else if c == '#' && (rest.head? == some '"' || rest.head? == some '#') then scan.rawText
      else if c == '\'' then scan.character rest
      else if c == '-' && (rest.head?.map Char.isDigit).getD false &&
          allowsSign (scan.found.head?.map PlacedLexeme.lexeme) then
        scan.number true rest
      else if (symbol? (c :: rest)).isSome then scan.symbol c
      else if isSeparator c then { scan with place := nextColumn scan.place, rest := rest }
      else scan.fail (.unexpected (String.singleton c)) scan.place

/-- Goes on until nothing is left. -/
def run : (fuel : Nat) -> ScriptScan -> ScriptScan
  | 0, scan => scan
  | fuel + 1, scan => if scan.rest.isEmpty then scan else run fuel scan.step

end ScriptScan

/-- The lexemes of a script. -/
def lexemes (source : String) : List PlacedLexeme :=
  let scan := ScriptScan.run (source.toList.length + 1) { place := ⟨1, 1⟩, rest := source.toList }
  match scan.found with
  | ⟨.fault _, place⟩ :: _ => (⟨.stop, place⟩ :: scan.found).reverse
  | found => (⟨.stop, scan.place⟩ :: found).reverse

end Script
end Landform
