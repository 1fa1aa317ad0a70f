import TextureAtlas.Proofs.Packing.Room

/-! # How room comes and goes

A row has a gap of some width exactly if that many of its units, one after the other, are unused
(`RowSpace.Valid.hasGap_iff_unused`). So the fewer spans are used, the more a row can grant, however the
gaps were cut or joined. From this follows what becomes of the room in a packing: what has room has it
for anything smaller (`CanHold.mono`), to take a place makes no new room, also where it opens a row
(`Places.canHold_of_next`), and to give a place back loses none (`Valid.canHold_of_release`) and leaves
room for whatever fits it (`Valid.canHold_of_released`). -/
set_option autoImplicit false

namespace TextureAtlas

namespace RowSpace

variable {space next : RowSpace} {width : Nat} {span : Span}

theorem Valid.hasGap_iff_unused (valid : space.Valid) (positive : 0 < width) :
    space.HasGap width ↔ ∃ start, start + width ≤ space.total ∧
      ∀ unit, start ≤ unit → unit < start + width → ∀ span ∈ space.used, ¬ span.Covers unit := by
  constructor
  · intro hasGap
    obtain ⟨gap, member, fits⟩ := hasGap
    have maximal := valid.mem_free_iff.mp member
    have to_total := maximal.to_total
    refine ⟨gap.x, by omega, ?_⟩
    intro unit from_start to_stop
    exact maximal.unused unit ⟨from_start, by omega⟩
  · intro unused
    obtain ⟨start, inside, unused⟩ := unused
    have first_unused := unused start (Nat.le_refl _) (by omega)
    obtain ⟨gap, member, covers⟩ := (valid.free_iff start).mpr ⟨by omega, first_unused⟩
    obtain ⟨before, after⟩ := covers
    refine ⟨gap, member, ?_⟩
    -- The gap around the first unit goes on to the last: what could end it is a used span.
    rcases (valid.mem_free_iff.mp member).right_end with edge | ⟨other, used, edge⟩
    · omega
    · apply Nat.not_lt.mp
      intro short
      have other_positive := (valid.ordered.bounds used).2.1
      exact unused (gap.x + gap.width) (by omega) (by omega) other used ⟨by omega, by omega⟩

/-- The fewer spans are used, the more gaps there are. -/
theorem HasGap.of_used_subset (hasGap : space.HasGap width) (valid : space.Valid) (valid' : next.Valid)
    (positive : 0 < width) (total_eq : next.total = space.total)
    (fewer : ∀ span ∈ next.used, span ∈ space.used) : next.HasGap width := by
  obtain ⟨start, inside, unused⟩ := (valid.hasGap_iff_unused positive).mp hasGap
  refine (valid'.hasGap_iff_unused positive).mpr ⟨start, total_eq ▸ inside, ?_⟩
  intro unit from_start to_stop span member
  exact unused unit from_start to_stop span (fewer span member)

theorem Grants.hasGap_of_next {request : Nat} (grants : space.Grants request span next)
    (valid : space.Valid) (positive : 0 < width) (hasGap : next.HasGap width) : space.HasGap width := by
  apply hasGap.of_used_subset grants.valid valid positive grants.total_eq.symm
  intro other member
  rw [grants.used_eq]
  exact mem_insertByStart.mpr (Or.inr member)

theorem Valid.hasGap_of_release (valid : space.Valid) (success : space.release span = (.ok (), next))
    (positive : 0 < width) (hasGap : space.HasGap width) : next.HasGap width := by
  obtain ⟨_, total_eq, used_eq, next_valid⟩ := valid.release_ok success
  apply hasGap.of_used_subset valid next_valid positive total_eq
  intro other member
  exact List.mem_of_mem_erase (used_eq ▸ member)

/-- The units of the span itself are unused once it is given back. -/
theorem Valid.hasGap_of_released (valid : space.Valid) (success : space.release span = (.ok (), next)) :
    next.HasGap span.width := by
  obtain ⟨used, total_eq, used_eq, next_valid⟩ := valid.release_ok success
  have bounds := valid.ordered.bounds used
  refine (next_valid.hasGap_iff_unused bounds.2.1).mpr ⟨span.x, total_eq ▸ bounds.2.2, ?_⟩
  intro unit from_start to_stop other member covers
  rw [used_eq] at member
  obtain ⟨differs, used'⟩ := valid.ordered.nodup.mem_erase_iff.mp member
  obtain ⟨from_start', to_stop'⟩ := covers
  have apart := valid.ordered.apart used' used differs
  omega

end RowSpace

namespace Packing

variable {packing next : Packing} {need other : Size}

theorem HasRoom.mono (hasRoom : packing.HasRoom need) (width_le : other.width ≤ need.width)
    (height_le : other.height ≤ need.height) : packing.HasRoom other := by
  cases hasRoom with
  | inl inRow =>
    obtain ⟨row, member, high, hasGap⟩ := inRow
    exact Or.inl ⟨row, member, Nat.le_trans height_le high, hasGap.mono width_le⟩
  | inr below => exact Or.inr (Nat.le_trans height_le below)

theorem CanHold.mono (holds : packing.CanHold need) (width_le : other.width ≤ need.width)
    (height_le : other.height ≤ need.height) : packing.CanHold other where
  width_le := Nat.le_trans width_le holds.width_le
  height_le := Nat.le_trans height_le holds.height_le
  room := holds.room.mono width_le height_le

section Places

variable {border : Nat} {size : Size} {placement : Placement}

/-- What has room afterwards had it before: in the same row, or in place of the row that was opened. -/
theorem Places.hasRoom_of_next (places : packing.Places border size need placement next)
    (valid : packing.Valid) (positive : 0 < other.width) (hasRoom : next.HasRoom other) :
    packing.HasRoom other := by
  cases places with
  | @inRow index row span space found before high grants =>
    cases hasRoom with
    | inl inRow =>
      obtain ⟨candidate, member, high', hasGap⟩ := inRow
      rcases List.mem_or_eq_of_mem_set member with kept | rfl
      · exact Or.inl ⟨candidate, kept, high', hasGap⟩
      · have row_member := List.mem_of_getElem? found
        have row_valid := valid.row_valid row row_member
        exact Or.inl ⟨row, row_member, high', grants.hasGap_of_next row_valid positive hasGap⟩
    | inr below => exact Or.inr below
  | @below span space before fits grants =>
    cases hasRoom with
    | inl inRow =>
      obtain ⟨candidate, member, high', hasGap⟩ := inRow
      rcases List.mem_append.mp member with kept | new
      · exact Or.inl ⟨candidate, kept, high', hasGap⟩
      · cases List.mem_singleton.mp new
        exact Or.inr (Nat.le_trans high' fits)
    | inr below =>
      refine Or.inr (Nat.le_trans below ?_)
      exact Nat.sub_le_sub_left (Nat.le_add_right _ _) _

theorem Places.canHold_of_next (places : packing.Places border size need placement next)
    (valid : packing.Valid) (positive : 0 < other.width) (holds : next.CanHold other) :
    packing.CanHold other where
  width_le := places.size_eq ▸ holds.width_le
  height_le := places.size_eq ▸ holds.height_le
  room := places.hasRoom_of_next valid positive holds.room

end Places

section Releases

variable {index : Nat} {span : Span}

theorem Valid.canHold_of_release (valid : packing.Valid)
    (success : packing.release index span = (.ok (), next)) (positive : 0 < other.width)
    (holds : packing.CanHold other) : next.CanHold other := by
  obtain ⟨row, space, found, released, rfl⟩ := release_eq_ok_iff.mp success
  refine ⟨holds.width_le, holds.height_le, ?_⟩
  cases holds.room with
  | inl inRow =>
    obtain ⟨candidate, member, high, hasGap⟩ := inRow
    obtain ⟨at_index, found'⟩ := List.mem_iff_getElem?.mp member
    by_cases same : index = at_index
    · subst same
      cases found.symm.trans found'
      have row_valid := valid.row_valid row member
      have room : Row.HasRoom { row with space } other :=
        ⟨high, row_valid.hasGap_of_release released positive hasGap⟩
      exact Or.inl ⟨_, List.mem_of_getElem? (getElem?_withSpace_self found), room⟩
    · have kept : (packing.withSpace index row space).rows[at_index]? = some candidate :=
        getElem?_withSpace_ne same found'
      exact Or.inl ⟨candidate, List.mem_of_getElem? kept, high, hasGap⟩
  | inr below => exact Or.inr below

/-- What is no wider than the span and no higher than its row can go where the span was. -/
theorem Valid.canHold_of_released (valid : packing.Valid)
    (success : packing.release index span = (.ok (), next)) {row : Row}
    (found : packing.rows[index]? = some row) (width_le : need.width ≤ span.width)
    (height_le : need.height ≤ row.height) : next.CanHold need := by
  obtain ⟨row', space, found', released, rfl⟩ := release_eq_ok_iff.mp success
  cases found.symm.trans found'
  have row_valid := valid.row_valid row (List.mem_of_getElem? found)
  have within := valid.within found (row_valid.release_ok released).1
  have room : Row.HasRoom { row with space } need :=
    ⟨height_le, (row_valid.hasGap_of_released released).mono width_le⟩
  exact {
    width_le := show need.width ≤ packing.size.width by omega
    height_le := show need.height ≤ packing.size.height by omega
    room := Or.inl ⟨_, List.mem_of_getElem? (getElem?_withSpace_self found), room⟩ }

end Releases

/-- Where no row is too low for a texel with its border, a packing that is not full has room for one. -/
theorem Valid.canHold_of_not_isFull (valid : packing.Valid) {border : Nat}
    (small : 2 * border < coordLimit) (known : packing.isFull border = .ok false)
    (high : ∀ row ∈ packing.rows, 1 + 2 * border ≤ row.height)
    (width_le : 1 + 2 * border ≤ packing.size.width) (height_le : 1 + 2 * border ≤ packing.size.height) :
    packing.CanHold ⟨1 + 2 * border, 1 + 2 * border⟩ := by
  refine ⟨width_le, height_le, ?_⟩
  by_contra noRoom
  have low : packing.size.height - packing.filled < 1 + 2 * border :=
    Nat.not_le.mp fun fits => noRoom (Or.inr fits)
  have narrow : ∀ row ∈ packing.rows, ¬ row.space.HasGap (1 + 2 * border) :=
    fun row member hasGap => noRoom (Or.inl ⟨row, member, high row member, hasGap⟩)
  cases known.symm.trans ((valid.isFull_iff small).mpr ⟨low, narrow⟩)

end Packing
end TextureAtlas
