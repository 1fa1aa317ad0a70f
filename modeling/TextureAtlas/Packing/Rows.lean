import TextureAtlas.Geometry.Rectangle
import TextureAtlas.Packing.RowSpace

/-! # Packing into rows

A page is cut into rows, stacked from the top without gaps; `filled` is the height they take. A row
keeps the height it was opened with. A fragment needs its own size and a border on all sides, its
footprint; it goes into the first row that is high enough and has a gap wide enough for it, or else
into a new row of exactly its height below the others. The texels play no part in any of this. -/
set_option autoImplicit false

namespace TextureAtlas

structure Row where
  y : Nat
  height : Nat
  space : RowSpace
deriving DecidableEq, Repr

structure Packing where
  size : Size
  rows : List Row
  filled : Nat
deriving DecidableEq, Repr

/-- A reserved place: the index and the top of its row, and the units taken from it. -/
structure Slot where
  row : Nat
  y : Nat
  span : Span
deriving DecidableEq, Repr

/-- Where a fragment is: `span` counts the border in, `rectangle` does not. -/
structure Placement where
  row : Nat
  span : Span
  rectangle : Rectangle
deriving DecidableEq, Repr

/-- What a fragment of this size takes up: a border on each side, cut off at the largest coordinate. -/
def Size.footprint (size : Size) (border : Nat) : Except Fault Size := do
  let both ← coord (2 * border)
  return ⟨saturatingAdd size.width both, saturatingAdd size.height both⟩

/-- Where a fragment of this size is in a slot that was reserved for it: inside its border. -/
def Slot.inset (slot : Slot) (border : Nat) (size : Size) : Except Fault Placement := do
  let x ← coord (slot.span.x + border)
  let y ← coord (slot.y + border)
  return ⟨slot.row, slot.span, ⟨x, y, size.width, size.height⟩⟩

/-- Reserves the footprint in a row, if the row is high enough and has the gap. -/
def Row.take (row : Row) (need : Size) : Except Fault (Option Span) × Row :=
  if row.height < need.height then (.ok none, row)
  else
    match row.space.alloc need.width with
    | (.ok span, space) => (.ok (some span), { row with space })
    | (.error (.rejected _), space) => (.ok none, { row with space })
    | (.error (.fault fault), space) => (.error fault, { row with space })

/-- Reserves the footprint in the first row that takes it, counting the rows from `index`. -/
def takeFirst (need : Size) (index : Nat) : List Row → Except Fault (Option Slot) × List Row
  | [] => (.ok none, [])
  | row :: rows =>
    match row.take need with
    | (.error fault, row) => (.error fault, row :: rows)
    | (.ok (some span), row) => (.ok (some ⟨index, row.y, span⟩), row :: rows)
    | (.ok none, row) =>
      let (found, rows) := takeFirst need (index + 1) rows
      (found, row :: rows)

namespace Packing

def empty (size : Size) : Packing := ⟨size, [], 0⟩

/-- The height below the last row. -/
def remaining (packing : Packing) : Except Fault Nat := minus packing.size.height packing.filled

/-- Opens a row of the footprint's height below the others, if there is room. -/
def openRow (packing : Packing) (need : Size) : Except Fault (Option Slot) × Packing :=
  match packing.remaining with
  | .error fault => (.error fault, packing)
  | .ok remaining =>
    if remaining < need.height then (.ok none, packing)
    else
      match (RowSpace.ofTotal packing.size.width).alloc need.width with
      | (.error (.fault fault), _) => (.error fault, packing)
      | (.error (.rejected _), _) => (.ok none, packing)
      | (.ok span, space) =>
        let opened :=
          { packing with rows := packing.rows ++ [⟨packing.filled, need.height, space⟩] }
        match coord (packing.filled + need.height) with
        | .error fault => (.error fault, opened)
        | .ok filled =>
          (.ok (some ⟨packing.rows.length, packing.filled, span⟩), { opened with filled })

def reserve (packing : Packing) (need : Size) : Except Fault (Option Slot) × Packing :=
  match takeFirst need 0 packing.rows with
  | (.error fault, rows) => (.error fault, { packing with rows })
  | (.ok (some slot), rows) => (.ok (some slot), { packing with rows })
  | (.ok none, rows) => { packing with rows }.openRow need

/-- Not even a single texel with its border would find a place. -/
def isFull (packing : Packing) (border : Nat) : Except Fault Bool := do
  let both ← coord (2 * border)
  let smallest ← coord (1 + both)
  return (← packing.remaining) < smallest &&
    packing.rows.all fun row => !row.space.hasSpace smallest

/-- The answer to a request for a place. -/
inductive Response
  /-- The footprint is wider or higher than the page. -/
  | oversized
  /-- It would fit into an empty page; `full` if nothing at all fits any more. -/
  | noRoom (full : Bool)
  | placed (placement : Placement)
deriving DecidableEq, Repr

/-- Finds a place for a fragment of this size and puts its border around it. -/
def place (packing : Packing) (border : Nat) (size : Size) : Except Fault Response × Packing :=
  match size.footprint border with
  | .error fault => (.error fault, packing)
  | .ok need =>
    if packing.size.width < need.width ∨ packing.size.height < need.height then
      (.ok .oversized, packing)
    else
      match packing.reserve need with
      | (.error fault, packing) => (.error fault, packing)
      | (.ok none, packing) => ((packing.isFull border).map .noRoom, packing)
      | (.ok (some slot), packing) => ((slot.inset border size).map .placed, packing)

/-- Gives a span back to its row. The row stays, even when nothing is left in it. -/
def release (packing : Packing) (row : Nat) (span : Span) : Except Fault Unit × Packing :=
  match packing.rows[row]? with
  | none => (.error (.noSuchRow row), packing)
  | some found =>
    let (outcome, space) := found.space.release span
    (outcome, { packing with rows := packing.rows.set row { found with space } })

/-- The used widths, each times the height of its row. -/
def usedArea (packing : Packing) : Except Fault Nat :=
  packing.rows.foldlM (fun area row => do
    position (area + (← row.space.usedSpace) * row.height)) 0

end Packing
end TextureAtlas
