namespace Landform
namespace Text

/-!
Blank characters, and the two operations on text that depend on them: cutting the
blanks at both ends, and splitting into lines.
-/

/-- The characters with the property White_Space. -/
def isBlank (c : Char) : Bool :=
  let code := c.toNat
  (0x09 ≤ code && code ≤ 0x0D) || code == 0x20 || code == 0x85 || code == 0xA0 ||
    code == 0x1680 || (0x2000 ≤ code && code ≤ 0x200A) || code == 0x2028 ||
    code == 0x2029 || code == 0x202F || code == 0x205F || code == 0x3000

/-- The text without the blanks at its two ends, on character lists. -/
def trimChars (cs : List Char) : List Char :=
  ((cs.dropWhile isBlank).reverse.dropWhile isBlank).reverse

/-- The text without the blanks at its two ends. -/
def trim (s : String) : String :=
  String.ofList (trimChars s.toList)

/-- Whether a text holds nothing but blanks. -/
def isBlankText (s : String) : Bool :=
  s.toList.all isBlank

theorem isBlankText_append (front back : String) :
    isBlankText (front ++ back) = (isBlankText front && isBlankText back) := by
  simp only [isBlankText, String.toList_append, List.all_append]

theorem isBlankText_of_front {front : String} (spoken : isBlankText front = false)
    (back : String) : isBlankText (front ++ back) = false := by
  rw [isBlankText_append front back, spoken, Bool.false_and]

theorem isBlankText_of_back (front : String) {back : String}
    (spoken : isBlankText back = false) : isBlankText (front ++ back) = false := by
  rw [isBlankText_append front back, spoken, Bool.and_false]

/--
The lines of a text.  A line feed ends a line, together with a carriage return right
before it; what follows the last line feed is a line only if it is not empty.
-/
def linesFrom (acc : List Char) : List Char → List (List Char)
  | [] => if acc.isEmpty then [] else [acc.reverse]
  | c :: rest =>
      if c == '\n' then
        match acc with
        | '\r' :: shorter => shorter.reverse :: linesFrom [] rest
        | _ => acc.reverse :: linesFrom [] rest
      else linesFrom (c :: acc) rest

/-- The lines of a text, without their line ends. -/
def lines (s : String) : List String :=
  (linesFrom [] s.toList).map String.ofList

end Text
end Landform
