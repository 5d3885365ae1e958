import Landform.Landscape.Reader

namespace Landform
namespace Landscape

/-!
# What settings say

Inside of a block stand settings, each a key and a value.  Here it is said which two words make
a setting, and what the settings of a block come to, and neither is said by reading them one
after another: of every key the last value counts, and a key without one has its usual value.

The reader works the other way round.  It keeps the attributes as they are so far and changes
them setting by setting.  `apply_eq_ok_iff` says that it accepts exactly the words that make a
setting, and `ofSettings_append` that changing one attribute is what one setting more comes to.
-/

/-! ## Numbers -/

/-- The ways in which a number may be signed. -/
inductive Sign where
  | unsigned
  | plus
  | minus

namespace Sign

/-- A sign as it is written. -/
def chars : Sign -> List Char
  | unsigned => []
  | plus => ['+']
  | minus => ['-']

/-- Whether a sign is for numbers below zero. -/
def isMinus : Sign -> Bool
  | minus => true
  | _ => false

/-- The number that a sign makes of a magnitude. -/
def apply : Sign -> Nat -> Int
  | minus, magnitude => -(magnitude : Int)
  | _, magnitude => magnitude

end Sign

/-- A word that stands for a number of 32 bits: a sign or none, digits, and percent signs. -/
def IsNumber (word : String) (n : Int) : Prop :=
  Exists fun sign : Sign => Exists fun digits : List Char => Exists fun percents : Nat =>
    word.toList = sign.chars ++ digits ++ List.replicate percents '%' ∧
      digits ≠ [] ∧ (∀ digit ∈ digits, digit.isDigit = true) ∧
      n = sign.apply (Nat.ofDigitChars 10 digits 0) ∧ Number.int32.contains n = true

theorem le_ofDigitChars (digits : List Char) (value : Nat) :
    value ≤ Nat.ofDigitChars 10 digits value := by
  induction digits generalizing value with
  | nil => exact Nat.le_refl value
  | cons digit rest inductionHypothesis =>
      have later := inductionHypothesis (10 * value + (digit.toNat - '0'.toNat))
      have grown : Nat.ofDigitChars 10 (digit :: rest) value =
          Nat.ofDigitChars 10 rest (10 * value + (digit.toNat - '0'.toNat)) := rfl
      omega

theorem digitIn_ten (c : Char) :
    Number.digitIn 10 c = if c.isDigit then some (c.toNat - '0'.toNat) else none := by
  have digit : c.isDigit = (decide ('0' ≤ c) && decide (c ≤ '9')) := rfl
  unfold Number.digitIn
  rw [← digit]
  cases isDigit : c.isDigit with
  | true =>
      rw [digit, Bool.and_eq_true, decide_eq_true_eq, decide_eq_true_eq] at isDigit
      have bound : c.toNat ≤ 57 := isDigit.2
      have zero : '0'.toNat = 48 := rfl
      have small : c.toNat - '0'.toNat < 10 := by omega
      simp only [if_true, small]
  | false =>
      simp only [Bool.false_eq_true, if_false]
      have large : ¬ (if (decide ('a' ≤ c) && decide (c ≤ 'z')) = true then
            c.toNat - 'a'.toNat + 10
          else if (decide ('A' ≤ c) && decide (c ≤ 'Z')) = true then c.toNat - 'A'.toNat + 10
          else 36) < 10 := by
        split
        · omega
        · split <;> omega
      rw [if_neg large]

section

variable {n : Int}

theorem apply_grown (sign : Sign) (value digit : Nat) :
    sign.apply value * 10 + (if sign.isMinus then -(digit : Int) else digit) =
      sign.apply (10 * value + digit) := by
  cases sign <;> simp only [Sign.apply, Sign.isMinus, Bool.false_eq_true, if_false, if_true] <;>
    omega

theorem contains_of_le (sign : Sign) {low high : Nat} (ordered : low ≤ high)
    (inside : Number.int32.contains (sign.apply high) = true) :
    Number.int32.contains (sign.apply low) = true := by
  rw [Number.Span.contains_iff] at inside ⊢
  cases sign <;> simp only [Sign.apply, Number.int32] at inside ⊢ <;> omega

/-- Digits are read just when the number they end with is in the range, since all the numbers
on the way are nearer to zero. -/
theorem readDigits_eq_ok_iff (sign : Sign) (digits : List Char) (value : Nat)
    (start : Number.int32.contains (sign.apply value) = true) :
    Number.readDigits Number.int32 10 sign.isMinus (sign.apply value) digits = .ok n ↔
      (∀ digit ∈ digits, digit.isDigit = true) ∧
        n = sign.apply (Nat.ofDigitChars 10 digits value) ∧
        Number.int32.contains n = true := by
  induction digits generalizing value with
  | nil =>
      simp only [Number.readDigits, Except.ok.injEq, List.not_mem_nil, false_implies,
        implies_true, true_and]
      constructor
      · intro same
        subst same
        exact ⟨rfl, start⟩
      · rintro ⟨same, inside⟩
        exact same.symm
  | cons digit rest inductionHypothesis =>
      have unfolded : Nat.ofDigitChars 10 (digit :: rest) value =
          Nat.ofDigitChars 10 rest (10 * value + (digit.toNat - '0'.toNat)) := rfl
      simp only [Number.readDigits, digitIn_ten, unfolded, List.forall_mem_cons]
      cases isDigit : digit.isDigit with
      | false =>
          simp only [Bool.false_eq_true, if_false, false_and, iff_false]
          intro impossible
          cases impossible
      | true =>
          have grown : sign.apply value * ((10 : Nat) : Int) +
              (if sign.isMinus then -((digit.toNat - '0'.toNat : Nat) : Int)
                else ((digit.toNat - '0'.toNat : Nat) : Int)) =
              sign.apply (10 * value + (digit.toNat - '0'.toNat)) :=
            apply_grown sign value _
          simp only [if_true, true_and, grown]
          split
          · rename_i inside
            exact inductionHypothesis _ inside
          · rename_i outside
            constructor
            · intro impossible
              cases impossible
            · rintro ⟨_, same, inside⟩
              subst same
              exact absurd (contains_of_le sign (le_ofDigitChars rest _) inside) outside

theorem readInBase_unsigned {first : Char} (notPlus : first ≠ '+') (notMinus : first ≠ '-')
    (rest : List Char) :
    Number.readInBase Number.int32 10 (String.ofList (first :: rest)) =
      Number.readDigits Number.int32 10 false 0 (first :: rest) := by
  rw [Number.readInBase, String.toList_ofList]
  split
  · rename_i impossible
    cases impossible
  · rename_i plus
    exact absurd (List.cons.inj plus).1 notPlus
  · rename_i minus
    exact absurd (List.cons.inj minus).1 notMinus
  · rename_i plus
    exact absurd (List.cons.inj plus).1 notPlus
  · rename_i minus
    exact absurd (List.cons.inj minus).1 notMinus
  · rfl

theorem readInBase_signed (sign : Sign) {digits : List Char} (some : digits ≠ [])
    (isDigit : ∀ digit ∈ digits, digit.isDigit = true) :
    Number.readInBase Number.int32 10 (String.ofList (sign.chars ++ digits)) =
      Number.readDigits Number.int32 10 sign.isMinus 0 digits := by
  rcases digits with _ | ⟨digit, rest⟩
  · exact absurd rfl some
  · have first := isDigit digit List.mem_cons_self
    cases sign with
    | unsigned =>
        refine readInBase_unsigned ?_ ?_ rest
        · rintro rfl
          cases first
        · rintro rfl
          cases first
    | plus | minus =>
        rw [Number.readInBase, String.toList_ofList]
        rfl

theorem signed_of_readInBase {chars : List Char}
    (read : Number.readInBase Number.int32 10 (String.ofList chars) = .ok n) :
    Exists fun sign : Sign => Exists fun digits : List Char =>
      chars = sign.chars ++ digits ∧ digits ≠ [] ∧
        Number.readDigits Number.int32 10 sign.isMinus 0 digits = .ok n := by
  rcases chars with _ | ⟨first, rest⟩
  · cases read
  · by_cases plus : first = '+'
    · subst plus
      rw [Number.readInBase, String.toList_ofList] at read
      rcases rest with _ | ⟨digit, rest⟩
      · cases read
      · exact ⟨.plus, digit :: rest, rfl, List.cons_ne_nil _ _, read⟩
    · by_cases minus : first = '-'
      · subst minus
        rw [Number.readInBase, String.toList_ofList] at read
        rcases rest with _ | ⟨digit, rest⟩
        · cases read
        · exact ⟨.minus, digit :: rest, rfl, List.cons_ne_nil _ _, read⟩
      · rw [readInBase_unsigned plus minus] at read
        exact ⟨.unsigned, first :: rest, rfl, List.cons_ne_nil _ _, read⟩

/-- A sign and digits are read as the number they stand for. -/
theorem readDecimal_eq_some_iff (chars : List Char) :
    Number.readDecimal? Number.int32 (String.ofList chars) = some n ↔
      Exists fun sign : Sign => Exists fun digits : List Char =>
        chars = sign.chars ++ digits ∧ digits ≠ [] ∧
          (∀ digit ∈ digits, digit.isDigit = true) ∧
          n = sign.apply (Nat.ofDigitChars 10 digits 0) ∧ Number.int32.contains n = true := by
  have opened : Number.readDecimal? Number.int32 (String.ofList chars) = some n ↔
      Number.readInBase Number.int32 10 (String.ofList chars) = .ok n := by
    simp only [Number.readDecimal?, Number.readDecimal]
    cases Number.readInBase Number.int32 10 (String.ofList chars) <;>
      simp [Except.toOption]
  have signed : ∀ (sign : Sign) (digits : List Char),
      Number.readDigits Number.int32 10 sign.isMinus 0 digits = .ok n ↔
        (∀ digit ∈ digits, digit.isDigit = true) ∧
          n = sign.apply (Nat.ofDigitChars 10 digits 0) ∧
          Number.int32.contains n = true := by
    intro sign digits
    have zero : sign.apply 0 = 0 := by cases sign <;> rfl
    have read := readDigits_eq_ok_iff (n := n) sign digits 0 (by rw [zero]; rfl)
    rwa [zero] at read
  rw [opened]
  constructor
  · intro read
    rcases signed_of_readInBase read with ⟨sign, digits, written, some, digitsRead⟩
    exact ⟨sign, digits, written, some, (signed sign digits).mp digitsRead⟩
  · rintro ⟨sign, digits, written, some, number⟩
    rw [written, readInBase_signed sign some number.1]
    exact (signed sign digits).mpr number

theorem dropWhile_percents {chars : List Char} {percents : Nat}
    (last : ∀ c ∈ chars.getLast?, (c == '%') = false) :
    ((chars ++ List.replicate percents '%').reverse.dropWhile fun c => c == '%') =
      chars.reverse := by
  rw [List.reverse_append, List.reverse_replicate, List.dropWhile_append_of_pos]
  · rw [← List.head?_reverse] at last
    rcases reversed : chars.reverse with _ | ⟨c, rest⟩
    · rfl
    · rw [reversed] at last
      exact List.dropWhile_cons_of_neg (Bool.eq_false_iff.mp (last c rfl))
  · intro c member
    rw [List.eq_of_mem_replicate member]
    rfl

/-- Percent signs at the end of a word are dropped before a number is read. -/
theorem readNumber_eq_some_iff (word : String) :
    readNumber? word = some n ↔ IsNumber word n := by
  rw [readNumber?, readDecimal_eq_some_iff]
  constructor
  · rintro ⟨sign, digits, kept, number⟩
    let dropped := word.toList.reverse.takeWhile fun c => c == '%'
    have percents : dropped = List.replicate dropped.length '%' := by
      apply List.eq_replicate_of_mem
      intro c member
      exact eq_of_beq (List.all_eq_true.mp List.all_takeWhile c member)
    have whole : dropped ++ word.toList.reverse.dropWhile (fun c => c == '%') =
        word.toList.reverse := List.takeWhile_append_dropWhile
    refine ⟨sign, digits, dropped.length, ?_, number⟩
    calc word.toList
      _ = (dropped ++ word.toList.reverse.dropWhile (fun c => c == '%')).reverse := by
        rw [whole, List.reverse_reverse]
      _ = sign.chars ++ digits ++ dropped.reverse := by rw [List.reverse_append, kept]
      _ = sign.chars ++ digits ++ List.replicate dropped.length '%' := by
        rw [percents, List.reverse_replicate, List.length_replicate]
  · rintro ⟨sign, digits, percents, written, some, isDigit, number⟩
    refine ⟨sign, digits, ?_, some, isDigit, number⟩
    have last : ∀ c ∈ (sign.chars ++ digits).getLast?, (c == '%') = false := by
      intro c member
      rw [List.getLast?_append, List.getLast?_eq_some_getLast some, Option.some_or] at member
      have digit := isDigit c (List.mem_of_getLast? (List.getLast?_eq_some_getLast some ▸ member))
      apply Bool.eq_false_iff.mpr
      intro percent
      rw [eq_of_beq percent] at digit
      cases digit
    rw [written, dropWhile_percents last, List.reverse_reverse]

end

/-! ## Flags and names of patterns -/

/-- A word that stands for a truth value. -/
def IsFlag (word : String) : Bool -> Prop
  | true => Text.sameName word "1" = true ∨ Text.sameName word "true" = true
  | false => Text.sameName word "0" = true ∨ Text.sameName word "false" = true

/-- A word that stands for a pattern. -/
def IsPattern (word : String) (pattern : Pattern) : Prop :=
  Text.sameName word pattern.name = true

theorem readFlag_eq_some_iff (word : String) (flag : Bool) :
    readFlag? word = some flag ↔ IsFlag word flag := by
  have one : Text.asciiLower "1" = "1" := by decide
  have zero : Text.asciiLower "0" = "0" := by decide
  have yes : Text.asciiLower "true" = "true" := by decide
  have no : Text.asciiLower "false" = "false" := by decide
  have spelled : IsFlag word flag ↔
      if flag then Text.asciiLower word = "1" ∨ Text.asciiLower word = "true"
      else Text.asciiLower word = "0" ∨ Text.asciiLower word = "false" := by
    cases flag <;>
      simp only [IsFlag, Text.sameName, one, zero, yes, no, beq_iff_eq, Bool.false_eq_true,
        if_false, if_true]
  rw [spelled]
  simp only [readFlag?, Bool.or_eq_true, beq_iff_eq]
  generalize Text.asciiLower word = lower
  by_cases affirmed : lower = "1" ∨ lower = "true"
  · rw [if_pos affirmed]
    rcases affirmed with same | same <;> subst same <;> cases flag <;> decide
  · rw [if_neg affirmed]
    by_cases denied : lower = "0" ∨ lower = "false"
    · rw [if_pos denied]
      rcases denied with same | same <;> subst same <;> cases flag <;> decide
    · rw [if_neg denied]
      cases flag <;> simp only [affirmed, denied, reduceCtorEq, Bool.false_eq_true, if_false,
        if_true]

theorem ofName_eq_some_iff (word : String) (pattern : Pattern) :
    Pattern.ofName? word = some pattern ↔ IsPattern word pattern := by
  have distinct : ∀ first second : Pattern,
      Text.sameName first.name second.name = true -> first = second := by
    intro first second
    cases first <;> cases second <;> decide
  constructor
  · intro found
    have same := List.find?_some found
    rw [IsPattern, Text.sameName_comm]
    exact same
  · intro same
    rw [IsPattern, Text.sameName_comm] at same
    have member : pattern ∈ Pattern.all := by cases pattern <;> decide
    cases found : Pattern.ofName? word with
    | none =>
        have impossible := List.find?_eq_none.mp found pattern member
        exact absurd same impossible
    | some other =>
        have otherSame := List.find?_some found
        rw [Text.sameName_comm] at same
        rw [distinct other pattern (Text.sameName_trans otherSame same)]

/-! ## Keys and values -/

/-- The keys of settings. -/
inductive Key where
  | algo
  | mat
  | tex
  | back
  | x
  | y
  | wdt
  | hgt
  | zoomX
  | zoomY
  | a
  | b
  | seed
  | invert
  | mask
  deriving DecidableEq

namespace Key

/-- A key as it is written, in letters of either case. -/
def name : Key -> String
  | algo => "algo"
  | mat => "mat"
  | tex => "tex"
  | back => "back"
  | x => "x"
  | y => "y"
  | wdt => "wdt"
  | hgt => "hgt"
  | zoomX => "zoomX"
  | zoomY => "zoomY"
  | a => "a"
  | b => "b"
  | seed => "seed"
  | invert => "invert"
  | mask => "mask"

/-- All keys. -/
def all : List Key :=
  [algo, mat, tex, back, x, y, wdt, hgt, zoomX, zoomY, a, b, seed, invert, mask]

/-- What the values of a key are. -/
def Value : Key -> Type
  | algo => Pattern
  | mat | tex | back => String
  | x | y | wdt | hgt | zoomX | zoomY | a | b | seed => Int
  | invert | mask => Bool

/-- A word that stands for a value of a key.  Any word names a material or a texture. -/
def IsValue (word : String) : (key : Key) -> key.Value -> Prop
  | algo, pattern => IsPattern word pattern
  | mat, text | tex, text | back, text => text = word
  | x, n | y, n | wdt, n | hgt, n | zoomX, n | zoomY, n | a, n | b, n | seed, n =>
      IsNumber word n
  | invert, flag | mask, flag => IsFlag word flag

end Key

/-- A setting: a key and a value of it. -/
structure Setting where
  key : Key
  value : key.Value

namespace Setting

/-- The value of a setting, if its key is the given one. -/
def valueOf? (key : Key) (setting : Setting) : Option key.Value :=
  if same : setting.key = key then some (same ▸ setting.value) else none

/-- Two words that make a setting. -/
def IsWritten (keyWord valueWord : String) (setting : Setting) : Prop :=
  Text.sameName keyWord setting.key.name = true ∧ setting.key.IsValue valueWord setting.value

end Setting

/-- The last value that some settings give a key. -/
def lastValue (settings : List Setting) (key : Key) : Option key.Value :=
  (settings.filterMap (Setting.valueOf? key)).getLast?

/-- What the settings of a block come to: of every key the last value, or the usual one. -/
def Attributes.ofSettings (settings : List Setting) : Attributes where
  pattern := (lastValue settings .algo).getD Pattern.solid
  material := lastValue settings .mat
  texture := lastValue settings .tex
  back := lastValue settings .back
  x := (lastValue settings .x).getD (0 : Int)
  y := (lastValue settings .y).getD (0 : Int)
  width := (lastValue settings .wdt).getD (100 : Int)
  height := (lastValue settings .hgt).getD (100 : Int)
  zoomX := (lastValue settings .zoomX).getD (100 : Int)
  zoomY := (lastValue settings .zoomY).getD (100 : Int)
  a := (lastValue settings .a).getD (0 : Int)
  b := (lastValue settings .b).getD (0 : Int)
  seed := seedOf ((lastValue settings .seed).getD (0 : Int))
  invert := (lastValue settings .invert).getD false
  mask := (lastValue settings .mask).getD false

/-- Attributes after one of them is set. -/
def Attributes.set (attributes : Attributes) : Setting -> Attributes
  | ⟨.algo, pattern⟩ => { attributes with pattern := pattern }
  | ⟨.mat, text⟩ => { attributes with material := some text }
  | ⟨.tex, text⟩ => { attributes with texture := some text }
  | ⟨.back, text⟩ => { attributes with back := some text }
  | ⟨.x, n⟩ => { attributes with x := n }
  | ⟨.y, n⟩ => { attributes with y := n }
  | ⟨.wdt, n⟩ => { attributes with width := n }
  | ⟨.hgt, n⟩ => { attributes with height := n }
  | ⟨.zoomX, n⟩ => { attributes with zoomX := n }
  | ⟨.zoomY, n⟩ => { attributes with zoomY := n }
  | ⟨.a, n⟩ => { attributes with a := n }
  | ⟨.b, n⟩ => { attributes with b := n }
  | ⟨.seed, n⟩ => { attributes with seed := seedOf n }
  | ⟨.invert, flag⟩ => { attributes with invert := flag }
  | ⟨.mask, flag⟩ => { attributes with mask := flag }

theorem lastValue_append (settings : List Setting) (setting : Setting) (key : Key) :
    lastValue (settings ++ [setting]) key =
      (setting.valueOf? key).or (lastValue settings key) := by
  rw [lastValue, List.filterMap_append, List.getLast?_append]
  cases given : setting.valueOf? key <;>
    simp only [List.filterMap_cons, List.filterMap_nil, given] <;> rfl

theorem ofSettings_append (settings : List Setting) (setting : Setting) :
    Attributes.ofSettings (settings ++ [setting]) =
      (Attributes.ofSettings settings).set setting := by
  rcases setting with ⟨key, value⟩
  simp only [Attributes.ofSettings, lastValue_append]
  cases key <;> rfl

theorem ofSettings_nil : Attributes.ofSettings [] = {} :=
  rfl

theorem foldl_set (settings more : List Setting) :
    more.foldl Attributes.set (Attributes.ofSettings settings) =
      Attributes.ofSettings (settings ++ more) := by
  induction more generalizing settings with
  | nil => rw [List.append_nil, List.foldl_nil]
  | cons setting rest inductionHypothesis =>
      rw [List.foldl_cons, ← ofSettings_append, inductionHypothesis, List.append_assoc,
        List.singleton_append]

/-! ## Settings as they are read -/

namespace Key

/-- The value of a key that a word is read as. -/
def read? (word : String) : (key : Key) -> Option key.Value
  | algo => Pattern.ofName? word
  | mat | tex | back => some word
  | x | y | wdt | hgt | zoomX | zoomY | a | b | seed => readNumber? word
  | invert | mask => readFlag? word

theorem read_eq_some_iff (word : String) (key : Key) (value : key.Value) :
    key.read? word = some value ↔ key.IsValue word value := by
  cases key with
  | algo => exact ofName_eq_some_iff word value
  | mat | tex | back => exact Option.some_inj.trans eq_comm
  | invert | mask => exact readFlag_eq_some_iff word value
  | _ => exact readNumber_eq_some_iff word

end Key

theorem key_or_not (word : String) :
    (Exists fun known : Key => Text.sameName word known.name = true) ∨
      ∀ known : Key, Text.sameName word known.name = false := by
  by_cases known : Exists fun known : Key => Text.sameName word known.name = true
  · exact Or.inl known
  · exact Or.inr fun candidate => Bool.eq_false_iff.mpr fun same => known ⟨candidate, same⟩

section

variable (attributes : Attributes) {key : SettingKey} (word : String) (place : Place)

/-- A setting of a key is applied if its value is one of the key, and refused at the value
otherwise. -/
theorem apply_of_key {known : Key} (same : Text.sameName key.key known.name = true) :
    (∀ value, known.read? word = some value ->
      attributes.apply key word place = .ok (attributes.set ⟨known, value⟩)) ∧
    (known.read? word = none ->
      Exists fun cause => attributes.apply key word place = .error ⟨place, cause⟩) := by
  have lower : Text.asciiLower key.key = Text.asciiLower known.name := eq_of_beq same
  unfold Attributes.apply
  rw [lower]
  cases known with
  | algo =>
      constructor
      · intro value read
        have named : Pattern.ofName? word = some value := read
        simp only [show Text.asciiLower Key.algo.name = "algo" by decide, named]
        rfl
      · intro read
        have named : Pattern.ofName? word = none := read
        simp only [show Text.asciiLower Key.algo.name = "algo" by decide, named]
        exact ⟨_, rfl⟩
  | mat | tex | back =>
      refine ⟨?_, fun impossible => nomatch impossible⟩
      intro value read
      cases read
      rfl
  | invert | mask =>
      constructor
      · intro value read
        have flag : readFlag? word = some value := read
        simp only [flag]
        rfl
      · intro read
        have flag : readFlag? word = none := read
        simp only [flag]
        exact ⟨_, rfl⟩
  | _ =>
      constructor
      · intro value read
        have number : readNumber? word = some value := read
        simp only [number]
        rfl
      · intro read
        have number : readNumber? word = none := read
        simp only [number]
        exact ⟨_, rfl⟩

theorem apply_of_noKey (unknown : ∀ known : Key, Text.sameName key.key known.name = false) :
    attributes.apply key word place = .error ⟨key.place, .unknownKey key.key⟩ := by
  have absent : Text.asciiLower key.key ∉ Key.all.map fun known => Text.asciiLower known.name := by
    intro member
    rcases List.mem_map.mp member with ⟨known, _, same⟩
    have impossible := unknown known
    rw [Text.sameName, same, beq_self_eq_true] at impossible
    cases impossible
  simp only [Attributes.apply]
  generalize Text.asciiLower key.key = lower at absent
  split
  case h_16 => rfl
  all_goals exact absurd (by decide) absent

/-- The words that make a setting are those that are applied, and one attribute is set. -/
theorem apply_eq_ok_iff {next : Attributes} :
    attributes.apply key word place = .ok next ↔
      Exists fun setting : Setting =>
        setting.IsWritten key.key word ∧ next = attributes.set setting := by
  constructor
  · intro applied
    rcases key_or_not key.key with ⟨known, same⟩ | unknown
    · have outcome := apply_of_key attributes word place same
      cases read : known.read? word with
      | none =>
          rcases outcome.2 read with ⟨cause, refused⟩
          rw [refused] at applied
          cases applied
      | some value =>
          rw [outcome.1 value read] at applied
          exact ⟨⟨known, value⟩, ⟨same, (Key.read_eq_some_iff word known value).mp read⟩,
            (Except.ok.inj applied).symm⟩
    · rw [apply_of_noKey attributes word place unknown] at applied
      cases applied
  · rintro ⟨⟨known, value⟩, ⟨same, written⟩, set⟩
    have read := (Key.read_eq_some_iff word known value).mpr written
    rw [(apply_of_key attributes word place same).1 value read, set]

theorem apply_place {offence : DescriptionFault}
    (refused : attributes.apply key word place = .error offence) :
    offence.place = key.place ∨ offence.place = place := by
  rcases key_or_not key.key with ⟨known, same⟩ | unknown
  · have outcome := apply_of_key attributes word place same
    cases read : known.read? word with
    | none =>
        rcases outcome.2 read with ⟨cause, there⟩
        rw [there] at refused
        exact Or.inr (congrArg DescriptionFault.place (Except.error.inj refused)).symm
    | some value =>
        rw [outcome.1 value read] at refused
        cases refused
  · rw [apply_of_noKey attributes word place unknown] at refused
    exact Or.inl (congrArg DescriptionFault.place (Except.error.inj refused)).symm

end

end Landscape
end Landform
