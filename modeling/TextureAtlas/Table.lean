/-! # Tables

A table binds each of its keys to one value. It is seen through `get?`: `insert` and `erase` change
the binding of their own key and no other. The entries have no order that means anything, yet erasing
keeps the others in place, so that erasures in any order end in the same table. -/
set_option autoImplicit false

namespace TextureAtlas

structure Table (κ α : Type) where
  entries : List (κ × α)
  nodup : (entries.map Prod.fst).Nodup

namespace Table

variable {κ α : Type}

def empty : Table κ α := ⟨[], List.nodup_nil⟩

def size (table : Table κ α) : Nat := table.entries.length

def isEmpty (table : Table κ α) : Bool := table.entries.isEmpty

def keys (table : Table κ α) : List κ := table.entries.map Prod.fst

def values (table : Table κ α) : List α := table.entries.map Prod.snd

variable [DecidableEq κ]

/-- The value of the first entry with this key. -/
def valueOf (key : κ) : List (κ × α) → Option α
  | [] => none
  | entry :: rest => if entry.1 = key then some entry.2 else valueOf key rest

def get? (table : Table κ α) (key : κ) : Option α := valueOf key table.entries

def contains (table : Table κ α) (key : κ) : Bool := (table.get? key).isSome

theorem nodup_filter (entries : List (κ × α)) (key : κ) (nodup : (entries.map Prod.fst).Nodup) :
    ((entries.filter fun entry => decide (entry.1 ≠ key)).map Prod.fst).Nodup :=
  nodup.sublist (List.filter_sublist.map Prod.fst)

def erase (table : Table κ α) (key : κ) : Table κ α :=
  ⟨table.entries.filter fun entry => decide (entry.1 ≠ key), nodup_filter _ key table.nodup⟩

theorem not_mem_keys_erase (table : Table κ α) (key : κ) : key ∉ (table.erase key).keys := by
  intro member
  obtain ⟨entry, kept, same⟩ := List.mem_map.mp member
  have differs := (List.mem_filter.mp kept).2
  exact of_decide_eq_true differs same

/-- Binds `key` to `value`, whatever it was bound to. -/
def insert (table : Table κ α) (key : κ) (value : α) : Table κ α :=
  ⟨(key, value) :: (table.erase key).entries,
    List.nodup_cons.mpr ⟨not_mem_keys_erase table key, (table.erase key).nodup⟩⟩

@[simp] theorem get?_empty (key : κ) : (empty : Table κ α).get? key = none := rfl

theorem valueOf_filter_ne (entries : List (κ × α)) (key other : κ) :
    valueOf other (entries.filter fun entry => decide (entry.1 ≠ key)) =
      if other = key then none else valueOf other entries := by
  induction entries with
  | nil => simp [valueOf]
  | cons entry rest ih =>
    by_cases removed : entry.1 = key
    · rw [List.filter_cons_of_neg (by simp [removed]), ih]
      by_cases same : other = key
      · simp only [if_pos same]
      · have differs : entry.1 ≠ other := fun equal => same (equal.symm.trans removed)
        simp only [valueOf, if_neg same, if_neg differs]
    · rw [List.filter_cons_of_pos (by simp [removed])]
      simp only [valueOf, ih]
      by_cases found : entry.1 = other
      · have kept : other ≠ key := fun equal => removed (found.trans equal)
        simp only [if_pos found, if_neg kept]
      · simp only [if_neg found]

@[simp] theorem get?_erase_self (table : Table κ α) (key : κ) :
    (table.erase key).get? key = none := by
  simp only [get?, erase, valueOf_filter_ne, if_true]

theorem get?_erase_of_ne (table : Table κ α) {key other : κ} (differs : other ≠ key) :
    (table.erase key).get? other = table.get? other := by
  simp only [get?, erase, valueOf_filter_ne, if_neg differs]

@[simp] theorem get?_insert_self (table : Table κ α) (key : κ) (value : α) :
    (table.insert key value).get? key = some value := by
  simp only [get?, insert, valueOf, if_true]

theorem get?_insert_of_ne (table : Table κ α) {key other : κ} (value : α) (differs : other ≠ key) :
    (table.insert key value).get? other = table.get? other := by
  have erased := get?_erase_of_ne table differs
  simpa only [get?, insert, valueOf, if_neg differs.symm] using erased

theorem get?_insert_eq_some_iff (table : Table κ α) {key other : κ} {value found : α} :
    (table.insert key value).get? other = some found ↔
      other = key ∧ value = found ∨ other ≠ key ∧ table.get? other = some found := by
  by_cases same : other = key
  · subst same
    simp
  · rw [get?_insert_of_ne table value same]
    simp [same]

theorem get?_erase_eq_some_iff (table : Table κ α) {key other : κ} {found : α} :
    (table.erase key).get? other = some found ↔ other ≠ key ∧ table.get? other = some found := by
  by_cases same : other = key
  · subst same
    simp
  · rw [get?_erase_of_ne table same]
    simp [same]

theorem erase_comm (table : Table κ α) (first second : κ) :
    (table.erase first).erase second = (table.erase second).erase first := by
  simp only [erase, List.filter_filter, Bool.and_comm]

end Table
end TextureAtlas
