import Landform.Sheet

namespace Landform
namespace Sheet

/-!
Requests to a sheet.  A request is answered by a value of its own type; the sheet may be
changed, and materials that are not in the tables are noted.  A refused request leaves the
sheet as it was and notes nothing.
-/

/-- A request to a sheet. -/
inductive Request where
  | width
  | height
  | resize (width height : Int)
  | draw (spec : String)
  | drawShape (spec : String) (properties : List (String × Shape.Property))
  | setPixel (x y : Int) (spec : String)
  | pixel (x y : Int)
  | backPixel (x y : Int)

/-- What a request is answered by. -/
def Request.Answer : Request -> Type
  | width | height => Nat
  | resize _ _ => Except Refusal Unit
  | draw _ => Bool
  | drawShape _ _ => Except Refusal Bool
  | setPixel _ _ _ => Bool
  | pixel _ _ | backPixel _ _ => Int

/-- What came of a request: the answer, the sheet, and what is noted. -/
structure Response (α : Type) where
  answer : α
  sheet : Sheet
  notes : List String := []

/-- A stroke as the response to a request. -/
def Stroke.response (stroke : Stroke) : Response Bool :=
  ⟨stroke.painted, stroke.sheet, stroke.notes⟩

/-- Answers a request. -/
def serve (resolver : Resolver) (sheet : Sheet) :
    (request : Request) -> Response request.Answer
  | .width => ⟨sheet.width, sheet, []⟩
  | .height => ⟨sheet.height, sheet, []⟩
  | .resize width height =>
      match sheet.resize width height with
      | .ok resized => ⟨.ok (), resized, []⟩
      | .error refusal => ⟨.error refusal, sheet, []⟩
  | .draw spec => (sheet.draw resolver spec).response
  | .drawShape spec properties =>
      match Shape.ofProperties sheet (fun name => properties.lookup name) with
      | .ok shape =>
          let stroke := sheet.drawShape resolver spec shape
          ⟨.ok stroke.painted, stroke.sheet, stroke.notes⟩
      | .error refusal => ⟨.error refusal, sheet, []⟩
  | .setPixel x y spec => (sheet.setPixel resolver x y spec).response
  | .pixel x y => ⟨sheet.pixel x y, sheet, []⟩
  | .backPixel x y => ⟨sheet.backPixel x y, sheet, []⟩

/-- The answer to a request when there is no sheet. -/
def Request.absent : (request : Request) -> request.Answer
  | width | height => (0 : Nat)
  | resize _ _ => Except.ok ()
  | draw _ => false
  | drawShape _ _ => Except.ok false
  | setPixel _ _ _ => false
  | pixel _ _ | backPixel _ _ => (-1 : Int)

end Sheet
end Landform
