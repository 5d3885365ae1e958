import Landform.Proofs.Grids
import Landform.Proofs.Results

namespace Landform

/-!
# All of a request, or nothing

A request to a sheet may stop at several places: at a side that no sheet can have, at a property of
a shape that is no whole number, at a number that stands for no shape, at a material that is not in
the tables, or at a point beside the sheet.  Some of these are only found out after others were
passed, and a sheet has two rasters to write.  It is still never left half changed: what fails
leaves both rasters as they were, and what succeeds leaves them with one size.

Which requests fail is said here by what they ask for, and not by how they are carried out
(`ServedWhole.fails_iff`).  A material is looked up for a request that is not refused, and nothing
else is ever noted than that it is unknown.

All of it holds after any requests (`serveAll`), and scripts cannot reach a sheet in any other way:
whatever a script does, each sheet ends as if it had been given some requests, one after another.
-/

namespace Sheet

/-! ## Properties of shapes -/

namespace Shape

theorem bind_eq_ok_iff {α β : Type} {first : Except Refusal α} {next : α -> Except Refusal β}
    {last : β} : (first >>= next) = .ok last ↔
      Exists fun value => first = .ok value ∧ next value = .ok last := by
  cases first with
  | error refusal => simp only [bind, Except.bind, reduceCtorEq, false_and, exists_false]
  | ok value => simp only [bind, Except.bind, Except.ok.injEq, exists_eq_left']

variable {properties : String -> Option Property} {name : String}

/-- A property that is not given has its usual value. -/
theorem valueOf_eq_ok_iff {usual value : Int} :
    valueOf properties name usual = .ok value ↔
      (properties name).getD (.ok usual) = .ok value := by
  unfold valueOf
  rcases properties name with _ | typeName | given <;>
    simp only [Option.getD_none, Option.getD_some, reduceCtorEq, Except.ok.injEq]

/-- A property is a whole number, if it is given. -/
def IsWhole (properties : String -> Option Property) (name : String) : Prop :=
  ∀ typeName, properties name ≠ some (.error typeName)

theorem exists_valueOf_iff (usual : Int) :
    (Exists fun value => valueOf properties name usual = .ok value) ↔ IsWhole properties name := by
  unfold valueOf IsWhole
  rcases properties name with _ | typeName | given <;> simp

/-- The names of the properties of a shape. -/
def propertyNames : List String :=
  ["Algo", "X", "Y", "Wdt", "Hgt"]

/-- Properties tell a shape: they are whole numbers, and the first stands for a shape. -/
structure IsReadable (properties : String -> Option Property) : Prop where
  whole : ∀ name ∈ propertyNames, IsWhole properties name
  known : ∀ number, properties "Algo" = some (.ok number) ->
    number = rectangleNumber ∨ number = ellipseNumber

/-- The number of a shape and its place are read first, then its extent. -/
theorem ofProperties_eq_ok_iff {sheet : Sheet} {shape : Shape} :
    ofProperties sheet properties = .ok shape ↔
      Exists fun number => valueOf properties "Algo" rectangleNumber = .ok number ∧
        Exists fun x => valueOf properties "X" 0 = .ok x ∧
        Exists fun y => valueOf properties "Y" 0 = .ok y ∧
          ((number = rectangleNumber ∧
            Exists fun width => valueOf properties "Wdt" sheet.width = .ok width ∧
            Exists fun height => valueOf properties "Hgt" sheet.height = .ok height ∧
              shape = .rectangle x y width height) ∨
          (number = ellipseNumber ∧
            Exists fun radiusX => valueOf properties "Wdt" 10 = .ok radiusX ∧
            Exists fun radiusY => valueOf properties "Hgt" 10 = .ok radiusY ∧
              shape = .ellipse x y radiusX radiusY)) := by
  have different : rectangleNumber ≠ ellipseNumber := by decide
  simp only [ofProperties, bind_eq_ok_iff]
  refine exists_congr fun number => and_congr_right fun _ => ?_
  refine exists_congr fun x => and_congr_right fun _ => ?_
  refine exists_congr fun y => and_congr_right fun _ => ?_
  by_cases rectangle : number = rectangleNumber
  · have other : ¬number = ellipseNumber := rectangle ▸ different
    simp only [rectangle, if_true, true_and, different, false_and, or_false, bind_eq_ok_iff, pure,
      Except.pure, Except.ok.injEq, @eq_comm _ _ shape]
  · by_cases ellipse : number = ellipseNumber
    · simp only [ellipse, different.symm, if_false, if_true, true_and, false_and, false_or,
        bind_eq_ok_iff, pure, Except.pure, Except.ok.injEq, @eq_comm _ _ shape]
    · simp only [rectangle, ellipse, if_false, false_and, or_false, reduceCtorEq]

/-- Properties are refused just if they tell no shape. -/
theorem exists_ofProperties_iff (sheet : Sheet) :
    (Exists fun shape => ofProperties sheet properties = .ok shape) ↔ IsReadable properties := by
  constructor
  · rintro ⟨shape, told⟩
    obtain ⟨number, algo, x, left, y, top, extent⟩ := ofProperties_eq_ok_iff.mp told
    -- Both shapes read their extent from the same two properties.
    obtain ⟨known, ⟨wide, tall⟩⟩ : (number = rectangleNumber ∨ number = ellipseNumber) ∧
        IsWhole properties "Wdt" ∧ IsWhole properties "Hgt" := by
      rcases extent with ⟨same, width, wide, height, tall, _⟩ | ⟨same, width, wide, height, tall, _⟩
      · exact ⟨.inl same, (exists_valueOf_iff _).mp ⟨_, wide⟩, (exists_valueOf_iff _).mp ⟨_, tall⟩⟩
      · exact ⟨.inr same, (exists_valueOf_iff _).mp ⟨_, wide⟩, (exists_valueOf_iff _).mp ⟨_, tall⟩⟩
    refine ⟨?_, fun given found => ?_⟩
    · simp only [propertyNames, List.forall_mem_cons, List.not_mem_nil, false_implies, implies_true,
        and_true]
      exact ⟨(exists_valueOf_iff _).mp ⟨_, algo⟩, (exists_valueOf_iff _).mp ⟨_, left⟩,
        (exists_valueOf_iff _).mp ⟨_, top⟩, wide, tall⟩
    · rw [valueOf_eq_ok_iff, found, Option.getD_some] at algo
      cases algo
      exact known
  · rintro ⟨whole, known⟩
    have value (usual : Int) {name : String} (member : name ∈ propertyNames) :=
      (exists_valueOf_iff usual).mpr (whole name member)
    obtain ⟨number, algo⟩ := @value rectangleNumber "Algo" (by decide)
    obtain ⟨x, left⟩ := @value 0 "X" (by decide)
    obtain ⟨y, top⟩ := @value 0 "Y" (by decide)
    have shapes : number = rectangleNumber ∨ number = ellipseNumber := by
      have given := valueOf_eq_ok_iff.mp algo
      cases found : properties "Algo" with
      | none =>
          rw [found] at given
          exact .inl (Except.ok.inj given).symm
      | some property =>
          rw [found, Option.getD_some] at given
          exact known number (found.trans (congrArg some given))
    rcases shapes with same | same
    · obtain ⟨width, wide⟩ := @value sheet.width "Wdt" (by decide)
      obtain ⟨height, tall⟩ := @value sheet.height "Hgt" (by decide)
      exact ⟨_, ofProperties_eq_ok_iff.mpr
        ⟨_, algo, _, left, _, top, .inl ⟨same, _, wide, _, tall, rfl⟩⟩⟩
    · obtain ⟨radiusX, wide⟩ := @value 10 "Wdt" (by decide)
      obtain ⟨radiusY, tall⟩ := @value 10 "Hgt" (by decide)
      exact ⟨_, ofProperties_eq_ok_iff.mpr
        ⟨_, algo, _, left, _, top, .inr ⟨same, _, wide, _, tall, rfl⟩⟩⟩

end Shape

/-! ## Requests that fail -/

/-- A side that a sheet can be asked to have. -/
def IsSide (value : Int) : Prop :=
  0 ≤ value ∧ value ≤ longestSide

namespace Request

/-- Nothing came of a request: the answer is a refusal, or that nothing was painted. -/
def Fails : (request : Request) -> request.Answer -> Prop
  | .resize _ _, (.error _ : Except Refusal Unit) => True
  | .draw _, (painted : Bool) => painted = false
  | .drawShape _ _, (.ok painted : Except Refusal Bool) => painted = false
  | .drawShape _ _, (.error _ : Except Refusal Bool) => True
  | .setPixel _ _ _, (painted : Bool) => painted = false
  | _, _ => False

/-- What a request asks for cannot be had, whatever the tables hold. -/
def IsRefused : Request -> Prop
  | .resize columns rows => ¬(IsSide columns ∧ IsSide rows)
  | .drawShape _ properties => ¬Shape.IsReadable fun name => properties.lookup name
  | _ => False

/-- The spec of the material that a request lays. -/
def spec? : Request -> Option String
  | .draw spec | .drawShape spec _ | .setPixel _ _ spec => some spec
  | _ => none

/-- A request that is not refused lays a material that is not in the tables. -/
structure LaysUnknown (resolver : Resolver) (request : Request) (spec : String) : Prop where
  accepted : ¬request.IsRefused
  asked : request.spec? = some spec
  unknown : resolver.resolve spec = none

/-- A request is to write a point beside a sheet. -/
def IsBeside (sheet : Sheet) : Request -> Prop
  | .setPixel x y _ => ¬Within sheet.width sheet.height x y
  | _ => False

end Request

/-! ## One request -/

/-- A request to a sheet is served as a whole or not at all. -/
structure ServedWhole (resolver : Resolver) (sheet : Sheet) (request : Request)
    (response : Response request.Answer) : Prop where
  fits : response.sheet.Fits
  fails_iff : request.Fails response.answer ↔
    request.IsRefused ∨ (Exists fun spec => request.LaysUnknown resolver spec) ∨
      request.IsBeside sheet
  unchanged : request.Fails response.answer -> response.sheet = sheet
  /-- An unknown material is noted once. -/
  noted : ∀ spec, request.LaysUnknown resolver spec -> response.notes = [unknownMaterial spec]
  silent : (∀ spec, ¬request.LaysUnknown resolver spec) -> response.notes = []
  /-- A sheet that is resized has the sides that were asked for, and neither is too long. -/
  resized : ∀ columns rows, request = .resize columns rows -> ¬request.Fails response.answer ->
    response.sheet.size = (columns.toNat, rows.toNat) ∧ IsSide columns ∧ IsSide rows

theorem sideOf_eq_ok_iff {name : String} {value : Int} {side : Nat} :
    sideOf name value = .ok side ↔ IsSide value ∧ side = value.toNat := by
  unfold sideOf IsSide
  split
  · rename_i allowed
    simp only [allowed, and_self, true_and, Except.ok.injEq, @eq_comm _ _ side]
  · rename_i forbidden
    simp only [forbidden, false_and, reduceCtorEq]

theorem resize_eq_ok_iff {sheet resized : Sheet} {columns rows : Int} :
    sheet.resize columns rows = .ok resized ↔
      (IsSide columns ∧ IsSide rows) ∧ resized = sheet.withSides columns.toNat rows.toNat := by
  simp only [resize, Shape.bind_eq_ok_iff, sideOf_eq_ok_iff, pure, Except.pure, Except.ok.injEq]
  constructor
  · rintro ⟨_, ⟨wide, rfl⟩, _, ⟨tall, rfl⟩, same⟩
    exact ⟨⟨wide, tall⟩, same.symm⟩
  · rintro ⟨⟨wide, tall⟩, same⟩
    exact ⟨_, ⟨wide, rfl⟩, _, ⟨tall, rfl⟩, same.symm⟩

section

variable {resolver : Resolver} {sheet : Sheet} (fits : sheet.Fits) {request : Request}

include fits in
/-- A request that is refused is not looked at any further. -/
theorem servedWhole_refused {answer : request.Answer} (refused : request.IsRefused)
    (fails : request.Fails answer) : ServedWhole resolver sheet request ⟨answer, sheet, []⟩ where
  fits := fits
  fails_iff := ⟨fun _ => .inl refused, fun _ => fails⟩
  unchanged _ := rfl
  noted _ unknown := absurd refused unknown.accepted
  silent _ := rfl
  resized _ _ _ succeeded := absurd fails succeeded

include fits in
/-- A request for an unknown material comes to its note. -/
theorem servedWhole_unknown {answer : request.Answer} {spec : String}
    (unknown : request.LaysUnknown resolver spec) (fails : request.Fails answer) :
    ServedWhole resolver sheet request ⟨answer, sheet, [unknownMaterial spec]⟩ where
  fits := fits
  fails_iff := ⟨fun _ => .inr (.inl ⟨spec, unknown⟩), fun _ => fails⟩
  unchanged _ := rfl
  noted other alike := by
    rw [Option.some.inj (unknown.asked.symm.trans alike.asked)]
  silent known := absurd unknown (known spec)
  resized _ _ _ succeeded := absurd fails succeeded

/-- A request that lays a material of the tables comes to nothing just beside the sheet. -/
theorem servedWhole_painted {answer : request.Answer} {changed : Sheet} {spec : String}
    {material : MaterialPair} (accepted : ¬request.IsRefused) (asked : request.spec? = some spec)
    (resolved : resolver.resolve spec = some material)
    (changedFits : changed.Fits) (fails : request.Fails answer ↔ request.IsBeside sheet)
    (beside : request.IsBeside sheet -> changed = sheet) :
    ServedWhole resolver sheet request ⟨answer, changed, []⟩ := by
  have known (other : String) : ¬request.LaysUnknown resolver other := fun unknown => by
    have same := Option.some.inj (asked.symm.trans unknown.asked)
    rw [same, unknown.unknown] at resolved
    cases resolved
  refine ⟨changedFits, ?_, fun failed => beside (fails.mp failed), fun other unknown =>
    absurd unknown (known other), fun _ => rfl, ?_⟩
  · rw [fails]
    simp only [accepted, known, exists_false, false_or]
  · rintro columns rows rfl
    cases asked

/-- A request that lays no material and is not refused succeeds. -/
theorem servedWhole_granted {answer : request.Answer} {changed : Sheet}
    (accepted : ¬request.IsRefused) (asked : request.spec? = none) (changedFits : changed.Fits)
    (succeeds : ¬request.Fails answer)
    (resized : ∀ columns rows, request = .resize columns rows ->
      changed.size = (columns.toNat, rows.toNat) ∧ IsSide columns ∧ IsSide rows) :
    ServedWhole resolver sheet request ⟨answer, changed, []⟩ := by
  have known (spec : String) : ¬request.LaysUnknown resolver spec := fun unknown => by
    cases asked.symm.trans unknown.asked
  have inside : ¬request.IsBeside sheet := by
    cases request with
    | setPixel x y spec => cases asked
    | _ => exact id
  refine ⟨changedFits, ?_, fun failed => absurd failed succeeds, fun spec unknown =>
    absurd unknown (known spec), fun _ => rfl, fun columns rows same _ => resized columns rows same⟩
  simp only [succeeds, accepted, known, inside, exists_false, or_false]

include fits in
theorem resize_servedWhole (columns rows : Int) :
    ServedWhole resolver sheet (.resize columns rows)
      (sheet.serve resolver (.resize columns rows)) := by
  cases asked : sheet.resize columns rows with
  | ok resized =>
      obtain ⟨sides, same⟩ := resize_eq_ok_iff.mp asked
      simp only [serve, asked]
      refine servedWhole_granted (not_not_intro sides) rfl (resize_fits asked) id ?_
      rintro _ _ ⟨⟩
      exact ⟨congrArg size same, sides⟩
  | error refusal =>
      have refused : ¬(IsSide columns ∧ IsSide rows) := fun sides => by
        rw [resize_eq_ok_iff.mpr ⟨sides, rfl⟩] at asked
        cases asked
      simp only [serve, asked]
      exact servedWhole_refused fits refused trivial

include fits in
theorem draw_servedWhole (spec : String) :
    ServedWhole resolver sheet (.draw spec) (sheet.serve resolver (.draw spec)) := by
  have accepted : ¬(Request.draw spec).IsRefused := id
  cases resolved : resolver.resolve spec with
  | none =>
      simp only [serve, draw, resolved]
      exact servedWhole_unknown fits ⟨accepted, rfl, resolved⟩ rfl
  | some material =>
      simp only [serve, draw, resolved]
      exact servedWhole_painted accepted rfl resolved fits ⟨Bool.noConfusion, False.elim⟩ False.elim

include fits in
theorem drawShape_servedWhole (spec : String) (properties : List (String × Shape.Property)) :
    ServedWhole resolver sheet (.drawShape spec properties)
      (sheet.serve resolver (.drawShape spec properties)) := by
  cases told : Shape.ofProperties sheet fun name => properties.lookup name with
  | error refusal =>
      have refused : (Request.drawShape spec properties).IsRefused := fun readable => by
        obtain ⟨shape, told'⟩ := (Shape.exists_ofProperties_iff sheet).mpr readable
        rw [told'] at told
        cases told
      simp only [serve, told]
      exact servedWhole_refused fits refused trivial
  | ok shape =>
      have accepted : ¬(Request.drawShape spec properties).IsRefused := fun refused =>
        refused ((Shape.exists_ofProperties_iff sheet).mp ⟨shape, told⟩)
      cases resolved : resolver.resolve spec with
      | none =>
          simp only [serve, told, drawShape, resolved]
          exact servedWhole_unknown fits ⟨accepted, rfl, resolved⟩ rfl
      | some material =>
          simp only [serve, told, drawShape, resolved]
          exact servedWhole_painted accepted rfl resolved fits ⟨Bool.noConfusion, False.elim⟩
            False.elim

include fits in
theorem setPixel_servedWhole (x y : Int) (spec : String) :
    ServedWhole resolver sheet (.setPixel x y spec)
      (sheet.serve resolver (.setPixel x y spec)) := by
  have accepted : ¬(Request.setPixel x y spec).IsRefused := id
  cases resolved : resolver.resolve spec with
  | none =>
      simp only [serve, setPixel, resolved]
      exact servedWhole_unknown fits ⟨accepted, rfl, resolved⟩ rfl
  | some material =>
      have changedFits := setPixel_fits resolver x y spec fits
      simp only [setPixel, resolved] at changedFits
      simp only [serve, setPixel, resolved]
      refine servedWhole_painted accepted rfl resolved changedFits ?_ fun outside => ?_
      · show sheet.foreground.inBounds x y = false ↔ ¬Within _ _ x y
        rw [← Bool.not_eq_true, Raster.inBounds_iff]
        rfl
      · rw [Raster.set_outside outside, Raster.set_outside]
        rw [← fits.1, ← fits.2]
        exact outside

include fits in
/-- Every request is served as a whole or not at all. -/
theorem serve_servedWhole (request : Request) :
    ServedWhole resolver sheet request (sheet.serve resolver request) := by
  cases request with
  | width | height => exact servedWhole_granted id rfl fits id nofun
  | pixel x y | backPixel x y => exact servedWhole_granted id rfl fits id nofun
  | resize columns rows => exact resize_servedWhole fits columns rows
  | draw spec => exact draw_servedWhole fits spec
  | drawShape spec properties => exact drawShape_servedWhole fits spec properties
  | setPixel x y spec => exact setPixel_servedWhole fits x y spec

end

theorem indexAt_eq_neg_one_iff (raster : Raster) (x y : Int) :
    indexAt raster x y = -1 ↔ ¬Within raster.width raster.height x y := by
  rw [← raster.isSome_get?, Option.not_isSome_iff_eq_none]
  unfold indexAt
  cases raster.get? x y with
  | none => simp only
  | some index => simp only [reduceCtorEq]

/-! ## Many requests -/

/-- A sheet after requests were served, one after another. -/
def serveAll (resolver : Resolver) (sheet : Sheet) (requests : List Request) : Sheet :=
  requests.foldl (fun now request => (now.serve resolver request).sheet) sheet

theorem serveAll_fits (resolver : Resolver) {sheet : Sheet} (fits : sheet.Fits)
    (requests : List Request) : (sheet.serveAll resolver requests).Fits := by
  induction requests generalizing sheet with
  | nil => exact fits
  | cons request rest inductionHypothesis =>
      exact inductionHypothesis (serve_servedWhole fits request).fits

end Sheet

namespace Script

/-- Whatever a script does to a sheet, it does by requests, one after another. -/
theorem exchange_serves {α : Type} (dialogue : Dialogue α) {number : Nat}
    {sheets : List MountedSheet} {resolver : Resolver} {sheet : Sheet}
    (there : sheets[number]? = some ⟨resolver, sheet⟩) : Exists fun requests =>
      (dialogue.exchange sheets).sheets[number]? =
        some ⟨resolver, sheet.serveAll resolver requests⟩ := by
  induction dialogue generalizing sheets sheet with
  | done result => exact ⟨[], there⟩
  | ask request next inductionHypothesis =>
      cases request with
      | write line => exact inductionHypothesis () there
      | onSheet target request =>
          by_cases same : target = number
          · subst same
            obtain ⟨rest, left⟩ := inductionHypothesis _ (serveSheet_self request there).2
            exact ⟨request :: rest, left⟩
          · have still := (serveSheet_other request same sheets).trans there
            exact inductionHypothesis _ still

end Script

namespace Sheet

/-- **All or nothing.**  A sheet of one size keeps one size, whatever was asked of it.  Nothing
comes of the next request just if it is refused, lays an unknown material, or writes beside the
sheet; the sheet is then as it was, and nothing is noted unless the material was looked up and is
unknown.  No side that a sheet is asked to have is too long, and only points beside the sheet read
-1.  Scripts can do nothing else to a sheet. -/
theorem serveAll_servedWhole (resolver : Resolver) {sheet : Sheet} (fits : sheet.Fits)
    (requests : List Request) :
    let now := sheet.serveAll resolver requests
    now.Fits ∧
      (∀ request, ServedWhole resolver now request (now.serve resolver request)) ∧
      (∀ x y, (now.pixel x y = -1 ↔ ¬Within now.width now.height x y) ∧
        (now.backPixel x y = -1 ↔ ¬Within now.width now.height x y)) ∧
      ∀ {α : Type} (dialogue : Script.Dialogue α) (sheets : List Script.MountedSheet)
        (number : Nat), sheets[number]? = some ⟨resolver, now⟩ -> Exists fun later =>
          (dialogue.exchange sheets).sheets[number]? =
            some ⟨resolver, now.serveAll resolver later⟩ := by
  intro now
  have nowFits : now.Fits := serveAll_fits resolver fits requests
  refine ⟨nowFits, serve_servedWhole nowFits, fun x y => ⟨indexAt_eq_neg_one_iff _ x y, ?_⟩,
    fun dialogue _ _ there => Script.exchange_serves dialogue there⟩
  rw [width, height, nowFits.1, nowFits.2]
  exact indexAt_eq_neg_one_iff _ x y

/-- Earth has index 1, and rock has index 2. -/
def earthAndRock : Resolver where
  byPair := [("rock-rock", 2), ("earth-earth", 1)]
  byMaterial := [("earth", 1), ("rock", 2)]

/-- Nothing comes of a shape that is refused, of a material that is unknown, and of a point beside
the sheet; only the material is noted. -/
theorem serveAll_servedWhole_stopping :
    let now := (blank 2 2).serveAll earthAndRock
      [.draw "Earth:Rock", .resize 3 1, .resize 1 20000, .setPixel 0 0 "Gold"]
    let misshapen := now.serve earthAndRock (.drawShape "Gold" [("X", .error "string")])
    let unknown := now.serve earthAndRock (.drawShape "Gold" [])
    let beside := now.serve earthAndRock (.setPixel 3 0 "Rock")
    (blank 2 2).Fits ∧
      (now.size = (3, 1) ∧ now.foreground.cells = #[1, 1, 0] ∧
        now.background.cells = #[2, 2, 0]) ∧
      (misshapen.sheet = now ∧ misshapen.notes = []) ∧
      (unknown.sheet = now ∧ unknown.notes = ["Unknown material 'Gold'"]) ∧
      (beside.sheet = now ∧ beside.notes = []) ∧ now.pixel 3 0 = -1 ∧ now.pixel 2 0 ≠ -1 := by
  intro now misshapen unknown beside
  obtain ⟨_, whole, reads, _⟩ := serveAll_servedWhole earthAndRock (blank_fits 2 2)
    [.draw "Earth:Rock", .resize 3 1, .resize 1 20000, .setPixel 0 0 "Gold"]
  have size : now.size = (3, 1) := by decide +kernel
  -- A property is no whole number, and so the material is never looked up.
  have refused : (Request.drawShape "Gold" [("X", .error "string")]).IsRefused := fun readable =>
    readable.whole "X" (by decide) "string" rfl
  have gold : (Request.drawShape "Gold" []).LaysUnknown earthAndRock "Gold" :=
    ⟨fun misread => misread ⟨nofun, nofun⟩, rfl, by decide +kernel⟩
  have outside : ¬Within now.width now.height 3 0 := by
    rw [show now.width = 3 from congrArg Prod.fst size]
    decide
  have inside : Within now.width now.height 2 0 := by
    rw [show now.width = 3 from congrArg Prod.fst size,
      show now.height = 1 from congrArg Prod.snd size]
    decide
  have first := whole (.drawShape "Gold" [("X", .error "string")])
  have second := whole (.drawShape "Gold" [])
  have third := whole (.setPixel 3 0 "Rock")
  exact ⟨blank_fits 2 2, ⟨size, by decide +kernel, by decide +kernel⟩,
    ⟨first.unchanged (first.fails_iff.mpr (.inl refused)),
      first.silent fun _ unknown => unknown.accepted refused⟩,
    ⟨second.unchanged (second.fails_iff.mpr (.inr (.inl ⟨_, gold⟩))), second.noted _ gold⟩,
    ⟨third.unchanged (third.fails_iff.mpr (.inr (.inr outside))), by decide +kernel⟩,
    (reads 3 0).1.mpr outside, fun off => (reads 2 0).1.mp off inside⟩

end Sheet

end Landform
