import Mathlib.Algebra.BigOperators.Group.List.Basic
import Mathlib.Data.List.Nodup
import TextureAtlas.Proofs.Atlas.Ledger
import TextureAtlas.Proofs.Packing.Grid

/-! # Counting the fragments

`spots` lists the used spans of all rows of all pages, each once. In a sound atlas the table is the same
list in another order (`Sound.places_perm`), so that what is counted or summed over the fragments can be
counted or summed row by row. -/
set_option autoImplicit false

namespace TextureAtlas

/-! ## Entries of a table -/

namespace Table

variable {κ α : Type} [DecidableEq κ]

theorem valueOf_eq_some_iff {entries : List (κ × α)} (nodup : (entries.map Prod.fst).Nodup) {key : κ}
    {value : α} : valueOf key entries = some value ↔ (key, value) ∈ entries := by
  induction entries with
  | nil => simp [valueOf]
  | cons entry rest ih =>
    obtain ⟨fresh, rest_nodup⟩ := List.nodup_cons.mp nodup
    rw [valueOf, List.mem_cons]
    by_cases same : entry.1 = key
    · subst same
      have absent : (entry.1, value) ∉ rest := fun member =>
        fresh (List.mem_map.mpr ⟨_, member, rfl⟩)
      rw [if_pos rfl, Option.some.injEq, or_iff_left absent, Prod.ext_iff]
      simp only [true_and]
      exact eq_comm
    · have differs : (key, value) ≠ entry := fun equal => same (congrArg Prod.fst equal).symm
      rw [if_neg same, ih rest_nodup, or_iff_right differs]

theorem get?_eq_some_iff {table : Table κ α} {key : κ} {value : α} :
    table.get? key = some value ↔ (key, value) ∈ table.entries := valueOf_eq_some_iff table.nodup

theorem mem_values {table : Table κ α} {value : α} :
    value ∈ table.values ↔ ∃ key, table.get? key = some value := by
  simp [values, get?_eq_some_iff]

end Table

/-! ## Lists with the index of each part -/

section Indexed

variable {α β : Type}

/-- What `parts` lists for each item, with the index of the item. -/
def indexed (parts : α → List β) (items : List α) : List (Nat × β) :=
  items.zipIdx.flatMap fun (item, index) => (parts item).map (index, ·)

variable {parts : α → List β} {items : List α}

theorem mem_indexed {index : Nat} {part : β} : (index, part) ∈ indexed parts items ↔
    ∃ item, items[index]? = some item ∧ part ∈ parts item := by
  simp [indexed, List.mem_zipIdx_iff_getElem?, and_comm]

theorem nodup_indexed (nodup : ∀ item ∈ items, (parts item).Nodup) : (indexed parts items).Nodup := by
  refine List.nodup_flatMap.mpr ⟨?_, ?_⟩
  · rintro ⟨item, index⟩ member
    have item_member := List.mem_of_getElem? (List.mk_mem_zipIdx_iff_getElem?.mp member)
    exact (nodup item item_member).map fun _ _ same => (Prod.mk.inj same).2
  · have indices : (items.zipIdx.map Prod.snd).Nodup := by
      rw [List.zipIdx_map_snd]
      exact List.nodup_range' 1
    refine (List.pairwise_map.mp indices).imp ?_
    rintro ⟨item, index⟩ ⟨item', index'⟩ differ place here there
    obtain ⟨_, _, rfl⟩ := List.mem_map.mp here
    obtain ⟨_, _, same⟩ := List.mem_map.mp there
    exact differ (Prod.mk.inj same).1.symm

/-- What is summed over the parts of all items may be summed for each item first. -/
theorem sum_indexed {weight : Nat × β → Nat} {worth : α → Nat}
    (each : ∀ (index : Nat) (item : α), items[index]? = some item →
      ((parts item).map fun part => weight (index, part)).sum = worth item) :
    ((indexed parts items).map weight).sum = (items.map worth).sum := by
  have items_eq : items.map worth = items.zipIdx.map (worth ∘ Prod.fst) := by
    rw [← List.map_map, List.zipIdx_map_fst]
  rw [indexed, List.map_flatMap, List.flatMap_def, List.sum_flatten, List.map_map, items_eq]
  refine congrArg List.sum (List.map_congr_left ?_)
  rintro ⟨item, index⟩ member
  have found := List.mk_mem_zipIdx_iff_getElem?.mp member
  simpa only [Function.comp_apply, List.map_map, Function.comp_def] using each index item found

theorem length_indexed :
    (indexed parts items).length = (items.map fun item => (parts item).length).sum := by
  have counted := @sum_indexed α β parts items (fun _ => 1) (fun item => (parts item).length) (by simp)
  rwa [List.map_const', List.sum_replicate_nat, Nat.mul_one] at counted

end Indexed

/-! ## Used spans -/

/-- The used spans, each with the index of its row. -/
def Packing.spots (packing : Packing) : List (Nat × Span) := indexed (·.space.used) packing.rows

/-- The used spans of all pages, each with the index of its page and of its row. -/
def spots (pages : List Page) : List (Nat × Nat × Span) := indexed (·.packing.spots) pages

variable {pages : List Page}

theorem mem_spots {place : Nat × Nat × Span} : place ∈ spots pages ↔ place ∈ placesOf pages := by
  obtain ⟨index, row, span⟩ := place
  simp only [spots, mem_indexed, Packing.spots, mem_placesOf, Packing.Holds]

theorem Packing.Valid.nodup_spots {packing : Packing} (valid : packing.Valid) :
    packing.spots.Nodup :=
  nodup_indexed fun row member => (valid.row_valid row member).ordered.nodup

theorem nodup_spots (valid : ∀ page ∈ pages, page.Valid) : (spots pages).Nodup :=
  nodup_indexed fun page member => (valid page member).packing_valid.nodup_spots

theorem length_spots : (spots pages).length = (pages.map (·.packing.count)).sum := by
  rw [spots, length_indexed]
  simp only [Packing.spots, length_indexed, Packing.count]

namespace Atlas.Sound

variable {atlas : Atlas}

theorem nodup_places (sound : atlas.Sound) : (atlas.fragments.values.map Fragment.place).Nodup := by
  rw [Table.values, List.map_map]
  refine List.Nodup.map_on ?_ (List.Nodup.of_map Prod.fst atlas.fragments.nodup)
  rintro ⟨id, fragment⟩ member ⟨id', fragment'⟩ member' same
  have found : atlas.get? id = some fragment := Table.get?_eq_some_iff.mpr member
  have found' : atlas.get? id' = some fragment' := Table.get?_eq_some_iff.mpr member'
  obtain rfl : fragment = fragment' := sound.bijOn.injOn ⟨id, found⟩ ⟨id', found'⟩ same
  rw [← sound.key_eq id fragment found, ← sound.key_eq id' fragment found']

/-- The table and the rows list the same places. -/
theorem places_perm (sound : atlas.Sound) :
    (atlas.fragments.values.map Fragment.place).Perm (spots atlas.pages) := by
  -- Neither list has a place twice, so they need only have the same ones.
  refine (List.perm_ext_iff_of_nodup sound.nodup_places (nodup_spots sound.page_valid)).mpr ?_
  intro place
  have image := Set.ext_iff.mp sound.bijOn.image_eq place
  rw [mem_spots, ← places, ← image, List.mem_map]
  exact exists_congr fun fragment => and_congr_left fun _ => Table.mem_values

theorem size_eq (sound : atlas.Sound) :
    atlas.size = (atlas.pages.map (·.packing.count)).sum := by
  rw [← length_spots, ← sound.places_perm.length_eq, List.length_map, Table.values, List.length_map]
  rfl

end Atlas.Sound
end TextureAtlas
