import Landform.Proofs.SheetRequests

namespace Landform

open Number (int64)

/-!
# Rectangles on a sheet

A script gives a rectangle by its corner and its extent, four whole numbers of 64 bits, of which
any may be missing.  The far edges are sums that may leave this range and then stop at its end.
None of this is seen on a sheet.  No cell lies at the end of the range or beyond, so a far edge
that has stopped there has still passed every cell that it should have passed, and an edge that
would be below the range is in front of every cell.  What is drawn is the rectangle of unbounded
numbers (`drawShape_rectangle`).

All that is asked of a sheet is that its sides end below the end of the range, which 2^32 columns
or rows do by far.  The number of its cells plays no part.

Two drawings are then compared cell by cell: a drawing without a shape is that of the rectangle
one gets by giving nothing, and the order of two drawings does not matter where no cell lies in
both rectangles.
-/

namespace Number

/-- Below the end of a range, going beyond it cannot be told from stopping at it. -/
theorem Span.lt_saturate_iff (span : Span) {point n : Int} (low : span.low ≤ point)
    (high : point < span.high) : point < span.saturate n ↔ point < n := by
  unfold saturate
  omega

end Number

/-! ## Painting cells -/

namespace Raster

/-- Painting where a test passes changes those cells and no others. -/
theorem get?_paintWhere (raster : Raster) (test : Nat -> Nat -> Bool) (value : UInt8)
    {column row : Nat} (inWidth : column < raster.width) (inHeight : row < raster.height) :
    (raster.paintWhere test value).get? column row =
      if test column row then some value else raster.get? column row := by
  obtain ⟨fits, read⟩ := raster.get?_eq_getElem inWidth inHeight
  obtain ⟨painted, written⟩ :=
    (raster.paintWhere test value).get?_eq_getElem inWidth inHeight
  rw [written, read]
  simp only [paintWhere, Array.getElem_mapIdx, offset_column row inWidth, offset_row row inWidth]
  split <;> rfl

/-- Rasters are equal if they agree on the cells that they have. -/
theorem ext_cells {first second : Raster} (widths : first.width = second.width)
    (heights : first.height = second.height)
    (alike : ∀ column row : Nat, column < first.width -> row < first.height ->
      first.get? column row = second.get? column row) : first = second := by
  refine ext_get? widths heights fun column row => ?_
  by_cases inside : Within first.width first.height column row
  · exact alike column row (Int.ofNat_lt.mp inside.2.1) (Int.ofNat_lt.mp inside.2.2.2)
  · rw [get?_outside inside]
    rw [widths, heights] at inside
    rw [get?_outside inside]

/-- Tests that agree on the cells of a raster paint it alike. -/
theorem paintWhere_congr {raster : Raster} {first second : Nat -> Nat -> Bool} (value : UInt8)
    (alike : ∀ column row, column < raster.width -> row < raster.height ->
      first column row = second column row) :
    raster.paintWhere first value = raster.paintWhere second value := by
  refine ext_cells rfl rfl fun column row inWidth inHeight => ?_
  rw [get?_paintWhere raster first value inWidth inHeight,
    get?_paintWhere raster second value inWidth inHeight, alike column row inWidth inHeight]

/-- Paintings that share no cell of a raster can change places. -/
theorem paintWhere_comm {raster : Raster} {first second : Nat -> Nat -> Bool}
    (value other : UInt8)
    (apart : ∀ column row, column < raster.width -> row < raster.height ->
      ¬(first column row = true ∧ second column row = true)) :
    (raster.paintWhere first value).paintWhere second other =
      (raster.paintWhere second other).paintWhere first value := by
  refine ext_cells rfl rfl fun column row inWidth inHeight => ?_
  have never := apart column row inWidth inHeight
  rw [get?_paintWhere (raster.paintWhere first value) second other inWidth inHeight,
    get?_paintWhere raster first value inWidth inHeight,
    get?_paintWhere (raster.paintWhere second other) first value inWidth inHeight,
    get?_paintWhere raster second other inWidth inHeight]
  cases inFirst : first column row with
  | false => rfl
  | true =>
      have notInSecond : second column row = false :=
        Bool.eq_false_iff.mpr fun inSecond => never ⟨inFirst, inSecond⟩
      rw [notInSecond]
      rfl

end Raster

namespace Sheet

/-! ## Rectangles of unbounded numbers -/

/-- The corner of a rectangle, and its extent to the right and downwards. -/
structure Rectangle where
  x : Int
  y : Int
  width : Int
  height : Int

namespace Rectangle

/-- A point lies in a rectangle. -/
def Holds (rectangle : Rectangle) (px py : Int) : Prop :=
  (rectangle.x ≤ px ∧ px < rectangle.x + rectangle.width) ∧
    rectangle.y ≤ py ∧ py < rectangle.y + rectangle.height

instance holdsDecidable (rectangle : Rectangle) (px py : Int) :
    Decidable (rectangle.Holds px py) :=
  inferInstanceAs (Decidable (_ ∧ _))

/-- A rectangle as a shape. -/
def shape (rectangle : Rectangle) : Shape :=
  .rectangle rectangle.x rectangle.y rectangle.width rectangle.height

/-- All of a sheet. -/
def whole (sheet : Sheet) : Rectangle :=
  ⟨0, 0, sheet.width, sheet.height⟩

/-- Properties of a shape give a rectangle.  What is not given is that of the whole sheet. -/
structure IsGiven (sheet : Sheet) (properties : List (String × Shape.Property))
    (rectangle : Rectangle) : Prop where
  algo : (properties.lookup "Algo").getD (.ok rectangleNumber) = .ok rectangleNumber
  x : (properties.lookup "X").getD (.ok 0) = .ok rectangle.x
  y : (properties.lookup "Y").getD (.ok 0) = .ok rectangle.y
  width : (properties.lookup "Wdt").getD (.ok (sheet.width : Int)) = .ok rectangle.width
  height : (properties.lookup "Hgt").getD (.ok (sheet.height : Int)) = .ok rectangle.height

theorem IsGiven.of_size {sheet other : Sheet} (size : other.size = sheet.size)
    {properties : List (String × Shape.Property)} {rectangle : Rectangle}
    (given : rectangle.IsGiven sheet properties) : rectangle.IsGiven other properties where
  algo := given.algo
  x := given.x
  y := given.y
  width := by rw [show other.width = sheet.width from congrArg Prod.fst size]; exact given.width
  height := by rw [show other.height = sheet.height from congrArg Prod.snd size]; exact given.height

theorem IsGiven.ofProperties {sheet : Sheet} {properties : List (String × Shape.Property)}
    {rectangle : Rectangle} (given : rectangle.IsGiven sheet properties) :
    Shape.ofProperties sheet (fun name => properties.lookup name) = .ok rectangle.shape :=
  Shape.ofProperties_eq_ok_iff.mpr
    ⟨_, Shape.valueOf_eq_ok_iff.mpr given.algo, _, Shape.valueOf_eq_ok_iff.mpr given.x,
      _, Shape.valueOf_eq_ok_iff.mpr given.y,
      .inl ⟨rfl, _, Shape.valueOf_eq_ok_iff.mpr given.width,
        _, Shape.valueOf_eq_ok_iff.mpr given.height, rfl⟩⟩

/-- Before the end of the range, a shape holds the points of the rectangle. -/
theorem contains_shape (rectangle : Rectangle) {px py : Int}
    (across : 0 ≤ px ∧ px < int64.high) (down : 0 ≤ py ∧ py < int64.high) :
    rectangle.shape.contains px py = decide (rectangle.Holds px py) := by
  have least : int64.low ≤ 0 := by decide
  have right := int64.lt_saturate_iff (n := rectangle.x + rectangle.width)
    (Int.le_trans least across.1) across.2
  have bottom := int64.lt_saturate_iff (n := rectangle.y + rectangle.height)
    (Int.le_trans least down.1) down.2
  rw [Bool.eq_iff_iff, decide_eq_true_iff]
  simp only [shape, Shape.contains, Bool.and_eq_true, decide_eq_true_iff, right, bottom, Holds]
  constructor
  · rintro ⟨⟨⟨left, top⟩, right⟩, bottom⟩
    exact ⟨⟨left, right⟩, top, bottom⟩
  · rintro ⟨⟨left, right⟩, top, bottom⟩
    exact ⟨⟨⟨left, top⟩, right⟩, bottom⟩

/-- The cells of a sheet lie in the rectangle of the whole sheet. -/
theorem holds_whole {sheet : Sheet} {px py : Int} (inside : Within sheet.width sheet.height px py) :
    (whole sheet).Holds px py := by
  obtain ⟨left, right, top, bottom⟩ := inside
  refine ⟨⟨left, ?_⟩, top, ?_⟩
  · rwa [whole, Int.zero_add]
  · rwa [whole, Int.zero_add]

end Rectangle

/-! ## Drawing them -/

/-- The sides of a sheet end before the end of the range of 64 bits. -/
def IsShort (sheet : Sheet) : Prop :=
  sheet.width ≤ int64.high ∧ sheet.height ≤ int64.high

theorem IsShort.of_size {sheet other : Sheet} (size : other.size = sheet.size)
    (short : sheet.IsShort) : other.IsShort := by
  rw [IsShort, show other.width = sheet.width from congrArg Prod.fst size,
    show other.height = sheet.height from congrArg Prod.snd size]
  exact short

/-- Lays a material on the cells in a rectangle, if the material was found. -/
def layRectangle (sheet : Sheet) (found : Option MaterialPair) (rectangle : Rectangle) : Sheet :=
  match found with
  | none => sheet
  | some material => sheet.lay material fun column row => decide (rectangle.Holds column row)

theorem layRectangle_size (sheet : Sheet) (found : Option MaterialPair) (rectangle : Rectangle) :
    (sheet.layRectangle found rectangle).size = sheet.size := by
  cases found <;> rfl

/-- What is noted after the material of a spec was looked for. -/
def notesOn (spec : String) (found : Option MaterialPair) : List String :=
  if found.isSome then [] else [unknownMaterial spec]

section

variable {resolver : Resolver} {sheet : Sheet} (fits : sheet.Fits) (short : sheet.IsShort)
  {spec : String} {properties : List (String × Shape.Property)} {rectangle : Rectangle}

include fits in
/-- What is so of all cells of the foreground is so of those of the background. -/
theorem Fits.background_cells {holds : Nat -> Nat -> Prop}
    (all : ∀ column row, column < sheet.width -> row < sheet.height -> holds column row) :
    ∀ column row, column < sheet.background.width -> row < sheet.background.height ->
      holds column row := by
  rw [← fits.1, ← fits.2]
  exact all

include fits in
/-- Tests that agree on the cells of a sheet lay a material alike. -/
theorem lay_congr (material : MaterialPair) {first second : Nat -> Nat -> Bool}
    (alike : ∀ column row, column < sheet.width -> row < sheet.height ->
      first column row = second column row) :
    sheet.lay material first = sheet.lay material second := by
  have front := Raster.paintWhere_congr material.foreground alike
  have back := Raster.paintWhere_congr material.background (fits.background_cells alike)
  simp only [lay, front, back]

include fits in
/-- Materials that are laid on no common cell can be laid in any order. -/
theorem lay_comm (material other : MaterialPair) {first second : Nat -> Nat -> Bool}
    (apart : ∀ column row, column < sheet.width -> row < sheet.height ->
      ¬(first column row = true ∧ second column row = true)) :
    (sheet.lay material first).lay other second =
      (sheet.lay other second).lay material first := by
  have front := Raster.paintWhere_comm material.foreground other.foreground apart
  have back := Raster.paintWhere_comm material.background other.background
    (fits.background_cells apart)
  simp only [lay, front, back]

include fits in
theorem layRectangle_fits (found : Option MaterialPair) (rectangle : Rectangle) :
    (sheet.layRectangle found rectangle).Fits := by
  cases found <;> exact fits

include fits in
/-- Rectangles that share no cell of a sheet can be laid in any order. -/
theorem layRectangle_comm (found other : Option MaterialPair) {first second : Rectangle}
    (apart : ∀ px py, Within sheet.width sheet.height px py ->
      ¬(first.Holds px py ∧ second.Holds px py)) :
    (sheet.layRectangle found first).layRectangle other second =
      (sheet.layRectangle other second).layRectangle found first := by
  cases found with
  | none => rfl
  | some material =>
      cases other with
      | none => rfl
      | some otherMaterial =>
          refine lay_comm fits material otherMaterial fun column row inWidth inHeight both => ?_
          exact apart column row (within_nat inWidth inHeight)
            ⟨of_decide_eq_true both.1, of_decide_eq_true both.2⟩

include fits short in
/-- A rectangle is drawn as it is among all numbers. -/
theorem drawShape_eq (rectangle : Rectangle) : sheet.drawShape resolver spec rectangle.shape =
    ⟨(resolver.resolve spec).isSome, sheet.layRectangle (resolver.resolve spec) rectangle,
      notesOn spec (resolver.resolve spec)⟩ := by
  unfold drawShape
  cases resolver.resolve spec with
  | none => rfl
  | some material =>
      have same : (sheet.lay material fun column row => rectangle.shape.contains column row) =
          sheet.layRectangle material rectangle :=
        lay_congr fits material fun column row inWidth inHeight =>
          rectangle.contains_shape
            ⟨Int.natCast_nonneg _, Int.lt_of_lt_of_le (Int.ofNat_lt.mpr inWidth) short.1⟩
            ⟨Int.natCast_nonneg _, Int.lt_of_lt_of_le (Int.ofNat_lt.mpr inHeight) short.2⟩
      exact congrArg (Stroke.mk true · []) same

include fits in
/-- A drawing without a shape is that of a rectangle of the whole sheet. -/
theorem draw_eq : sheet.draw resolver spec =
    ⟨(resolver.resolve spec).isSome,
      sheet.layRectangle (resolver.resolve spec) (Rectangle.whole sheet),
      notesOn spec (resolver.resolve spec)⟩ := by
  unfold draw
  cases resolver.resolve spec with
  | none => rfl
  | some material =>
      have same : (sheet.lay material fun _ _ => true) =
          sheet.layRectangle material (Rectangle.whole sheet) :=
        lay_congr fits material fun column row inWidth inHeight =>
          (decide_eq_true (Rectangle.holds_whole (within_nat inWidth inHeight))).symm
      exact congrArg (Stroke.mk true · []) same

include fits short in
theorem serve_drawShape (given : rectangle.IsGiven sheet properties) :
    sheet.serve resolver (.drawShape spec properties) =
      ⟨.ok (resolver.resolve spec).isSome, sheet.layRectangle (resolver.resolve spec) rectangle,
        notesOn spec (resolver.resolve spec)⟩ := by
  simp only [serve, given.ofProperties, drawShape_eq fits short]

end

/-- One raster is another after an index was written on a rectangle.  The cells in the rectangle
hold the index, and all other points read as they did. -/
structure IsWritten (before after : Raster) (rectangle : Rectangle) (index : UInt8) : Prop where
  width : after.width = before.width
  height : after.height = before.height
  inside : ∀ px py, Within before.width before.height px py -> rectangle.Holds px py ->
    after.get? px py = some index
  outside : ∀ px py, ¬rectangle.Holds px py -> after.get? px py = before.get? px py

theorem paintWhere_isWritten (raster : Raster) (rectangle : Rectangle) (index : UInt8) :
    IsWritten raster (raster.paintWhere (fun column row => decide (rectangle.Holds column row))
      index) rectangle index where
  width := rfl
  height := rfl
  inside px py within held := by
    obtain ⟨column, row, rfl, rfl, inWidth, inHeight⟩ := exists_of_within within
    rw [Raster.get?_paintWhere raster _ index inWidth inHeight, if_pos (decide_eq_true held)]
  outside px py missed := by
    by_cases within : Within raster.width raster.height px py
    · obtain ⟨column, row, rfl, rfl, inWidth, inHeight⟩ := exists_of_within within
      rw [Raster.get?_paintWhere raster _ index inWidth inHeight, decide_eq_false missed]
      rfl
    · rw [Raster.get?_outside within, Raster.get?_outside]
      exact within

/-- Two requests come to the same in either order: the sheet is the same in the end, and neither
is told of the other. -/
structure Interchange (resolver : Resolver) (start : Sheet) (first second : Request) : Prop where
  sheet : ((start.serve resolver first).sheet.serve resolver second).sheet =
    ((start.serve resolver second).sheet.serve resolver first).sheet
  firstAnswer : ((start.serve resolver second).sheet.serve resolver first).answer =
    (start.serve resolver first).answer
  firstNotes : ((start.serve resolver second).sheet.serve resolver first).notes =
    (start.serve resolver first).notes
  secondAnswer : ((start.serve resolver first).sheet.serve resolver second).answer =
    (start.serve resolver second).answer
  secondNotes : ((start.serve resolver first).sheet.serve resolver second).notes =
    (start.serve resolver second).notes

theorem drawShape_interchange {resolver : Resolver} {sheet : Sheet} (fits : sheet.Fits)
    (short : sheet.IsShort) {spec other : String}
    {properties otherProperties : List (String × Shape.Property)}
    {rectangle otherRectangle : Rectangle} (given : rectangle.IsGiven sheet properties)
    (otherGiven : otherRectangle.IsGiven sheet otherProperties)
    (apart : ∀ px py, Within sheet.width sheet.height px py ->
      ¬(rectangle.Holds px py ∧ otherRectangle.Holds px py)) :
    Interchange resolver sheet (.drawShape spec properties) (.drawShape other otherProperties) := by
  have first := @serve_drawShape resolver _ fits short spec _ _ given
  have second := @serve_drawShape resolver _ fits short other _ _ otherGiven
  -- A drawing leaves the sides as they are, so the other one asks for the same rectangle.
  have size := layRectangle_size sheet (resolver.resolve spec) rectangle
  have otherSize := layRectangle_size sheet (resolver.resolve other) otherRectangle
  have behindFirst := @serve_drawShape resolver _ (layRectangle_fits fits _ _)
    (short.of_size size) other _ _ (otherGiven.of_size size)
  have behindSecond := @serve_drawShape resolver _ (layRectangle_fits fits _ _)
    (short.of_size otherSize) spec _ _ (given.of_size otherSize)
  constructor
  case sheet =>
    rw [first, second, behindFirst, behindSecond]
    exact layRectangle_comm fits _ _ apart
  case firstAnswer | firstNotes =>
    rw [first, second, behindSecond]
  case secondAnswer | secondNotes =>
    rw [first, second, behindFirst]

/-- **Rectangles are drawn as among all numbers.**  A rectangle of a known material is laid on the
cells that it holds, and on no others, whatever its numbers are and whichever of them are missing.
So a drawing without a shape is that of a rectangle of the whole sheet, and drawings of rectangles
that have no cell of the sheet in common come to the same in any order. -/
theorem drawShape_rectangle (resolver : Resolver) {sheet : Sheet} (fits : sheet.Fits)
    (short : sheet.IsShort) :
    (∀ spec material properties rectangle, resolver.resolve spec = some material ->
      rectangle.IsGiven sheet properties ->
        let drawn := sheet.serve resolver (.drawShape spec properties)
        drawn.answer = .ok true ∧ drawn.notes = [] ∧
          IsWritten sheet.foreground drawn.sheet.foreground rectangle material.foreground ∧
          IsWritten sheet.background drawn.sheet.background rectangle material.background) ∧
      (∀ spec properties, (Rectangle.whole sheet).IsGiven sheet properties ->
        let drawn := sheet.serve resolver (.drawShape spec properties)
        let shapeless := sheet.serve resolver (.draw spec)
        drawn.answer = .ok shapeless.answer ∧ drawn.sheet = shapeless.sheet ∧
          drawn.notes = shapeless.notes) ∧
      ∀ spec properties (rectangle : Rectangle) other otherProperties (otherRectangle : Rectangle),
        rectangle.IsGiven sheet properties -> otherRectangle.IsGiven sheet otherProperties ->
        (∀ px py, Within sheet.width sheet.height px py ->
          ¬(rectangle.Holds px py ∧ otherRectangle.Holds px py)) ->
        Interchange resolver sheet (.drawShape spec properties)
          (.drawShape other otherProperties) := by
  refine ⟨?exact, ?shapeless, fun _ _ _ _ _ _ => drawShape_interchange fits short⟩
  case exact =>
    intro spec material properties rectangle resolved given drawn
    have served : drawn = ⟨.ok true, sheet.layRectangle material rectangle, []⟩ := by
      simp only [drawn, serve_drawShape fits short given, resolved]
      rfl
    rw [served]
    exact ⟨rfl, rfl, paintWhere_isWritten _ _ _, paintWhere_isWritten _ _ _⟩
  case shapeless =>
    intro spec properties given drawn shapeless
    have served : shapeless = (sheet.draw resolver spec).response := rfl
    rw [served, draw_eq fits, show drawn = _ from serve_drawShape fits short given]
    exact ⟨rfl, rfl, rfl⟩

/-- A rectangle whose far edges are beyond the range has the last cell, one that ends before it
starts has no cell, and a third has only cells in front of the first. -/
theorem drawShape_rectangle_far :
    let sheet := blank 3 2
    let last : Int := 9223372036854775807
    let corner := Request.drawShape "Rock"
      [("X", .ok 2), ("Y", .ok 1), ("Wdt", .ok last), ("Hgt", .ok last)]
    let behind := Request.drawShape "Rock" [("X", .ok (-last)), ("Wdt", .ok (-10))]
    let front := Request.drawShape "Earth" [("Wdt", .ok 2)]
    let serve (now : Sheet) request := (now.serve earthAndRock request).sheet
    (sheet.Fits ∧ sheet.IsShort) ∧
      ((serve sheet corner).foreground.get? 2 1 = some 2 ∧
        (serve sheet corner).foreground.get? 1 1 = some 0) ∧
      (∀ px py, (serve sheet behind).foreground.get? px py = sheet.foreground.get? px py) ∧
      serve sheet (.drawShape "Rock" []) = serve sheet (.draw "Rock") ∧
      serve (serve sheet corner) front = serve (serve sheet front) corner := by
  intro sheet last corner behind front serve
  have short : sheet.IsShort := ⟨by decide, by decide⟩
  obtain ⟨written, shapeless, apart⟩ := drawShape_rectangle earthAndRock (blank_fits 3 2) short
  have rock : earthAndRock.resolve "Rock" = some ⟨2, 2⟩ := by decide +kernel
  have cornerGiven : Rectangle.IsGiven sheet
      [("X", .ok 2), ("Y", .ok 1), ("Wdt", .ok last), ("Hgt", .ok last)] ⟨2, 1, last, last⟩ :=
    ⟨rfl, rfl, rfl, rfl, rfl⟩
  have behindGiven : Rectangle.IsGiven sheet [("X", .ok (-last)), ("Wdt", .ok (-10))]
      ⟨-last, 0, -10, 2⟩ := ⟨rfl, rfl, rfl, rfl, rfl⟩
  have frontGiven : Rectangle.IsGiven sheet [("Wdt", .ok 2)] ⟨0, 0, 2, 2⟩ :=
    ⟨rfl, rfl, rfl, rfl, rfl⟩
  obtain ⟨_, _, cornerWritten, _⟩ := written "Rock" _ _ _ rock cornerGiven
  obtain ⟨_, _, behindWritten, _⟩ := written "Rock" _ _ _ rock behindGiven
  refine ⟨⟨blank_fits 3 2, short⟩,
    ⟨cornerWritten.inside 2 1 (by decide) (by decide), ?_⟩, fun px py => ?_, ?_, ?_⟩
  · exact (cornerWritten.outside 1 1 (by decide)).trans (by decide +kernel)
  · refine behindWritten.outside px py fun held => ?_
    have left := held.1.1
    have right := held.1.2
    simp only at left right
    omega
  · exact (shapeless "Rock" [] ⟨rfl, rfl, rfl, rfl, rfl⟩).2.1
  · refine (apart "Rock" _ _ "Earth" _ _ cornerGiven frontGiven fun px py _ both => ?_).sheet
    have right := both.1.1.1
    have left := both.2.1.2
    simp only at left right
    omega

end Sheet

end Landform
