import TextureAtlas.Proofs.Packing.Room

/-! # First fit over the rows, best fit in a row

Where a footprint gets its place, without a word on the search for it (`Packing.FirstFits`): in the first
row that has room, at the start of the gap that fits best; or, where no row has room, at the start of a
new row below the others. Every other row keeps what it has, also those that were asked in vain. -/
set_option autoImplicit false

namespace TextureAtlas.Packing

inductive FirstFits (packing : Packing) (border : Nat) (size need : Size) : Placement → Packing → Prop
  | inRow {index : Nat} {row : Row} {gap : Span} {space : RowSpace}
      (found : packing.rows[index]? = some row) (room : row.HasRoom need)
      (first : ∀ (earlier : Nat) (other : Row), earlier < index →
        packing.rows[earlier]? = some other → ¬ other.HasRoom need)
      (best : RowSpace.IsBestFit need.width row.space.free gap)
      (grants : row.space.Grants need.width ⟨gap.x, need.width⟩ space) :
      FirstFits packing border size need
        ⟨index, ⟨gap.x, need.width⟩, ⟨gap.x + border, row.y + border, size.width, size.height⟩⟩
        { packing with rows := packing.rows.set index { row with space } }
  | below {y : Nat} {space : RowSpace} (y_eq : y = (packing.rows.map Row.height).sum)
      (noRoom : ∀ row ∈ packing.rows, ¬ row.HasRoom need) (fits : y + need.height ≤ packing.size.height)
      (grants : (RowSpace.ofTotal packing.size.width).Grants need.width ⟨0, need.width⟩ space) :
      FirstFits packing border size need
        ⟨packing.rows.length, ⟨0, need.width⟩, ⟨border, y + border, size.width, size.height⟩⟩
        { packing with
          rows := packing.rows ++ [⟨y, need.height, space⟩]
          filled := y + need.height }

variable {packing next : Packing} {border : Nat} {size need : Size} {placement : Placement}

theorem Places.firstFits (places : packing.Places border size need placement next)
    (valid : packing.Valid) : packing.FirstFits border size need placement next := by
  cases places with
  | @inRow index row span space found before high grants =>
    obtain ⟨gap, best, rfl⟩ := grants.best
    refine .inRow found ⟨high, grants.hasGap⟩ ?_ best grants
    intro earlier other less found'
    have other_valid := valid.row_valid other (List.mem_of_getElem? found')
    exact (Row.take_eq_none_iff other_valid grants.positive).mp (before earlier other less found')
  | @below span space before fits grants =>
    obtain rfl := grants.span_eq_of_ofTotal
    have noRoom := (refusedBefore_length_iff valid.row_valid grants.positive).mp before
    have filled_le := valid.filled_le
    rw [seat, Nat.zero_add]
    exact .below valid.filled_eq_sum noRoom (by omega) grants

end TextureAtlas.Packing
