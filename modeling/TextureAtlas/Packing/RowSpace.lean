import TextureAtlas.Coord

/-! # Space along a row

The units `0 ≤ x < total` of a row are handed out in spans. `free` and `used` are kept in the order of
their starts. A released span is looked up by its start and joined to a free span that it touches, and the
free spans that touch then are merged, so `free` holds the gaps between the used spans, each as long as it
can be. A request takes the start of the narrowest gap that is wide enough, of equal gaps the first. A
request answers with its outcome and the space it leaves behind, also when it failed. -/
set_option autoImplicit false

namespace TextureAtlas

/-- One past the last unit. -/
def Span.stop (span : Span) : Except Fault Nat := coord (span.x + span.width)

structure RowSpace where
  total : Nat
  available : Nat
  free : List Span
  used : List Span
deriving DecidableEq, Repr

namespace RowSpace

/-- The whole row is one gap, or there is none. -/
def ofTotal (total : Nat) : RowSpace where
  total
  available := total
  free := if 0 < total then [⟨0, total⟩] else []
  used := []

def hasSpace (space : RowSpace) (width : Nat) : Bool :=
  0 < width && width ≤ space.available && space.free.any (width ≤ ·.width)

/-- The narrowest gap of at least `width`, the first of equal ones. -/
def bestFit (width : Nat) : List Span → Option Span
  | [] => none
  | gap :: gaps =>
    match bestFit width gaps with
    | none => if width ≤ gap.width then some gap else none
    | some best => if width ≤ gap.width ∧ gap.width ≤ best.width then some gap else some best

/-- Cuts `width` units off the start of `gap`, which goes away when nothing of it is left. -/
def carve (gap : Span) (width : Nat) : List Span → Except Fault (List Span)
  | [] => .ok []
  | first :: gaps =>
    if first = gap then
      if gap.width = width then .ok gaps
      else do
        let x ← coord (gap.x + width)
        let rest ← minus gap.width width
        return ⟨x, rest⟩ :: gaps
    else do return first :: (← carve gap width gaps)

/-- Adds a span before the first that does not start to its left. -/
def insertByStart (span : Span) : List Span → List Span
  | [] => [span]
  | first :: spans =>
    if first.x < span.x then first :: insertByStart span spans else span :: first :: spans

/-- Merges `previous` with the spans that touch its end, and goes on with the next that does not. -/
def coalesceFrom (previous : Span) : List Span → Except Fault (List Span)
  | [] => .ok [previous]
  | next :: spans => do
    if (← previous.stop) = next.x then
      coalesceFrom ⟨previous.x, ← coord (previous.width + next.width)⟩ spans
    else return previous :: (← coalesceFrom next spans)

/-- Merges each run of spans that touch. -/
def coalesce : List Span → Except Fault (List Span)
  | [] => .ok []
  | first :: spans => coalesceFrom first spans

/-- Adds a span in front of gaps that start to its right. One that starts where the span ends is drawn
out to the left instead. -/
def joinNext (span : Span) : List Span → Except Fault (List Span)
  | [] => .ok [span]
  | next :: gaps => do
    if next.x = (← span.stop) then return ⟨span.x, ← coord (next.width + span.width)⟩ :: gaps
    else return span :: next :: gaps

/-- The same behind `previous`, which is drawn out to the right if it ends where the span starts. -/
def joinPrevious (previous span : Span) (gaps : List Span) : Except Fault (List Span) := do
  if (← previous.stop) = span.x then
    return ⟨previous.x, ← coord (previous.width + span.width)⟩ :: gaps
  else return previous :: (← joinNext span gaps)

/-- Adds a span between the last gap that starts to its left and the gap after that, joined to the
first of the two that it touches. -/
def rejoin (span : Span) : List Span → Except Fault (List Span)
  | [] => .ok [span]
  | first :: gaps =>
    if first.x < span.x then
      if gaps.head?.any (·.x < span.x) then do return first :: (← rejoin span gaps)
      else joinPrevious first span gaps
    else joinNext span (first :: gaps)

def alloc (space : RowSpace) (width : Nat) : Except Failure Span × RowSpace :=
  if width = 0 then (.error (.rejected (.invalidArgument .emptySpan)), space)
  else if space.available < width then (.error (.rejected .outOfSpace), space)
  else
    match bestFit width space.free with
    | none => (.error (.rejected .outOfSpace), space)
    | some gap =>
      match carve gap width space.free with
      | .error fault => (.error (.fault fault), space)
      | .ok free =>
        let span : Span := ⟨gap.x, width⟩
        (.ok span, { space with
          available := space.available - width
          free
          used := insertByStart span space.used })

/-- Looks for the span that starts at `x` by halving. If the spans are in the order of their starts, it is
the one in the middle or on the side of it that the starts tell. No side is as long as the whole, so as
many rounds as there are spans are enough. -/
def search (x : Nat) : (rounds : Nat) → List Span → Option Span
  | 0, _ => none
  | rounds + 1, spans =>
    match spans.drop (spans.length / 2) with
    | [] => none
    | middle :: later =>
      if middle.x = x then some middle
      else if middle.x < x then search x rounds later
      else search x rounds (spans.take (spans.length / 2))

/-- The used span that starts at `x`. -/
def usedAt (space : RowSpace) (x : Nat) : Option Span := search x space.used.length space.used

/-- Takes back a span, if just this one is used where it starts. It is used no more before it is counted
as available and joined to the gaps. -/
def release (space : RowSpace) (span : Span) : Except Fault Unit × RowSpace :=
  if space.usedAt span.x = some span then
    let unused := { space with used := space.used.erase span }
    match coord (space.available + span.width) with
    | .error fault => (.error fault, unused)
    | .ok available =>
      let counted := { unused with available }
      match rejoin span space.free with
      | .error fault => (.error fault, counted)
      | .ok joined =>
        match coalesce joined with
        | .error fault => (.error fault, { counted with free := joined })
        | .ok free => (.ok (), { counted with free })
  else (.error (.notAllocated span), space)

def usedSpace (space : RowSpace) : Except Fault Nat := minus space.total space.available

def isEmpty (space : RowSpace) : Bool := space.used.isEmpty

end RowSpace
end TextureAtlas
