import Landform.Fault
import Landform.Text.Alphanumeric

namespace Landform
namespace Landscape

/-!
The tokens of a landscape description: words, braces, semicolons and equals signs, each
with the place of its first character.  Blanks and comments separate tokens and say
nothing.  A comment `/* ... */` is followed character by character; a comment `// ...`
ends at the end of its line and does not move the column, so the end of a text that
closes with one is the place where the comment starts.
-/

/-- What a token is. -/
inductive TokenKind where
  | word (text : String)
  | openBrace
  | closeBrace
  | semicolon
  | equals
  deriving DecidableEq, Inhabited

/-- A token and where it starts. -/
structure Token where
  kind : TokenKind
  place : Place
  deriving DecidableEq, Inhabited

/-- The tokens of a text, and the place reached at its end. -/
structure TokenList where
  tokens : List Token
  stop : Place
  deriving DecidableEq, Inhabited

/-- Why a text does not consist of tokens. -/
inductive LexicalCause where
  | unclosedComment
  | strayCharacter (character : Char)
  deriving DecidableEq

namespace LexicalCause

/-- The wording of a cause. -/
def message : LexicalCause -> String
  | .unclosedComment => "unterminated block comment"
  | .strayCharacter character => s!"unexpected character '{character}'"

end LexicalCause

/-- The place from which a text does not consist of tokens. -/
structure LexicalFault where
  place : Place
  cause : LexicalCause
  deriving DecidableEq

/-- The place in front of the first character of a text. -/
def textStart : Place :=
  ⟨1, 1⟩

/-- The place after a character. -/
def placeAfter (place : Place) (c : Char) : Place :=
  if c == '\n' then ⟨place.line + 1, 1⟩ else ⟨place.line, place.column + 1⟩

/-- The place after several characters. -/
def placeAfterAll (place : Place) (cs : List Char) : Place :=
  cs.foldl placeAfter place

/-- Whether a character may stand in a word. -/
def isWordChar (c : Char) : Bool :=
  Text.isAlphanumeric c || c == '_' || c == '-' || c == '.' || c == '%' || c == '+'

/-- The token that a character is on its own. -/
def punctuation? : Char -> Option TokenKind
  | '\x7b' => some .openBrace
  | '\x7d' => some .closeBrace
  | ';' => some .semicolon
  | '=' => some .equals
  | _ => none

/-- What follows the end of a comment, and its place; nothing if the comment never ends. -/
def afterComment : Place -> List Char -> Option (Place × List Char)
  | _, [] => none
  | place, '*' :: '/' :: rest => some (placeAfterAll place ['*', '/'], rest)
  | place, c :: rest => afterComment (placeAfter place c) rest

theorem afterComment_length {place next : Place} {cs rest : List Char}
    (h : afterComment place cs = some (next, rest)) : rest.length < cs.length := by
  fun_induction afterComment place cs with
  | case1 => simp at h
  | case2 place left =>
      simp only [Option.some.injEq, Prod.mk.injEq] at h
      rw [← h.2]
      simp only [List.length_cons]
      omega
  | case3 place c left _ ih =>
      have := ih h
      simp only [List.length_cons]
      omega

/--
Scans a text from a place on.  The tokens found before are handed along, the latest
first.
-/
def scan (place : Place) (found : List Token) (cs : List Char) :
    Except LexicalFault TokenList :=
  match cs with
  | [] => .ok ⟨found.reverse, place⟩
  | '/' :: '/' :: rest => scan place found (rest.dropWhile fun c => c != '\n')
  | '/' :: '*' :: rest =>
      match _closed : afterComment (placeAfterAll place ['/', '*']) rest with
      | some (next, left) => scan next found left
      | none => .error ⟨place, .unclosedComment⟩
  | c :: rest =>
      if Text.isBlank c then scan (placeAfter place c) found rest
      else
        match punctuation? c with
        | some kind => scan (placeAfter place c) (⟨kind, place⟩ :: found) rest
        | none =>
            if isWordChar c then
              let word := c :: rest.takeWhile isWordChar
              scan (placeAfterAll place word)
                (⟨.word (String.ofList word), place⟩ :: found)
                (rest.dropWhile isWordChar)
            else .error ⟨place, .strayCharacter c⟩
termination_by cs.length
decreasing_by
  · have := (List.dropWhile_sublist (l := rest) fun c => c != '\n').length_le
    simp only [List.length_cons]
    omega
  · have := afterComment_length _closed
    simp only [List.length_cons]
    omega
  · simp only [List.length_cons]
    omega
  · simp only [List.length_cons]
    omega
  · have := (List.dropWhile_sublist (l := rest) isWordChar).length_le
    simp only [List.length_cons]
    omega

/-- The tokens of a text. -/
def tokenize (source : String) : Except LexicalFault TokenList :=
  scan textStart [] source.toList

end Landscape
end Landform
