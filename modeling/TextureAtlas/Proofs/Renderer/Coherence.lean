import TextureAtlas.Proofs.Atlas.Unsent
import TextureAtlas.Proofs.Renderer.Bytes
import TextureAtlas.Renderer.Bitmaps

/-! # The renderer keeps up with the pages

A rendering is an atlas together with the bitmaps that its transfers made. `Mirrors` says for one
position what the two marks of the page mean: an uploaded page has a bitmap of its size, and a clean
one has its texels in it; a page that is not uploaded has no bitmap and is dirty. Each operation
keeps this at every position (`Coherent.next`), also where positions are taken again after a
clearing. -/
set_option autoImplicit false

namespace TextureAtlas

/-! ## Transfers and positions -/

/-- The position that is spoken of. -/
def Transfer.page : Transfer → Nat
  | .upload page _ _ => page
  | .release page => page

/-- What is held for a page afterwards. -/
def Transfer.leaves : Transfer → Option Bitmap
  | .upload _ size bytes => some ⟨size, bytes⟩
  | .release _ => none

theorem get?_receive (bitmaps : Bitmaps) (transfer : Transfer) (index : Nat) :
    (bitmaps.receive transfer).get? index =
      if index = transfer.page then transfer.leaves else bitmaps.get? index := by
  by_cases same : index = transfer.page
  · rw [if_pos same, same]
    cases transfer with
    | upload page size bytes => exact Table.get?_insert_self _ _ _
    | release page => exact Table.get?_erase_self _ _
  · rw [if_neg same]
    cases transfer with
    | upload page size bytes => exact Table.get?_insert_of_ne _ _ same
    | release page => exact Table.get?_erase_of_ne _ same

def Bitmaps.receiveAll (bitmaps : Bitmaps) (transfers : List Transfer) : Bitmaps :=
  transfers.foldl receive bitmaps

theorem get?_receiveAll_of_ne {transfers : List Transfer} {index : Nat}
    (others : ∀ transfer ∈ transfers, index ≠ transfer.page) (bitmaps : Bitmaps) :
    (bitmaps.receiveAll transfers).get? index = bitmaps.get? index := by
  induction transfers generalizing bitmaps with
  | nil => rfl
  | cons transfer transfers ih =>
    obtain ⟨other, rest⟩ := List.forall_mem_cons.mp others
    rw [Bitmaps.receiveAll, List.foldl_cons, ← Bitmaps.receiveAll, ih rest, get?_receive,
      if_neg other]

/-- An operation on a page that speaks of no other position. -/
def KeepsToItself (operation : Page → Nat → Option Transfer × Page) : Prop :=
  ∀ (page : Page) (index : Nat) (transfer : Transfer),
    (operation page index).1 = some transfer → transfer.page = index

theorem sync_keepsToItself : KeepsToItself Page.sync := by
  intro page index transfer sent
  simp only [Page.sync, Page.flush] at sent
  split at sent <;> cases sent
  rfl

theorem dropBitmap_keepsToItself : KeepsToItself Page.dropBitmap := by
  intro page index transfer sent
  simp only [Page.dropBitmap] at sent
  split at sent <;> cases sent
  rfl

section TransferAll

variable {operation : Page → Nat → Option Transfer × Page}

theorem le_of_mem_transferAll (keeps : KeepsToItself operation) {start : Nat} {pages : List Page}
    {transfer : Transfer} (member : transfer ∈ (transferAll operation start pages).1) :
    start ≤ transfer.page := by
  induction pages generalizing start with
  | nil => cases member
  | cons page pages ih =>
    simp only [transferAll, List.mem_append, Option.mem_toList] at member
    rcases member with here | later
    · exact Nat.le_of_eq (keeps page start transfer here).symm
    · exact Nat.le_of_succ_le (ih later)

/-- What the operation makes of each page and of the bitmap at its position, it makes of all. -/
theorem transferAll_slots {before after : Option Page → Option Bitmap → Prop}
    (keeps : KeepsToItself operation)
    (nowhere : ∀ bitmap, before none bitmap → after none bitmap)
    (step : ∀ (page : Page) (index : Nat) (bitmaps : Bitmaps),
      before (some page) (bitmaps.get? index) →
        after (some (operation page index).2)
          ((bitmaps.receiveAll (operation page index).1.toList).get? index))
    {start : Nat} {pages : List Page} {bitmaps : Bitmaps}
    (slots : ∀ index, before pages[index]? (bitmaps.get? (start + index))) (index : Nat) :
    after (transferAll operation start pages).2[index]?
      ((bitmaps.receiveAll (transferAll operation start pages).1).get? (start + index)) := by
  induction pages generalizing start bitmaps index with
  | nil => exact nowhere _ (slots index)
  | cons page pages ih =>
    have own : ∀ transfer ∈ (operation page start).1.toList, transfer.page = start := by
      intro transfer sent
      exact keeps page start transfer (Option.mem_toList.mp sent)
    rw [transferAll, Bitmaps.receiveAll, List.foldl_append, ← Bitmaps.receiveAll, ← Bitmaps.receiveAll]
    cases index with
    | zero =>
      -- The later transfers do not reach back to this position.
      rw [Nat.add_zero, get?_receiveAll_of_ne]
      · exact step page start bitmaps (slots 0)
      · intro transfer member
        exact Nat.ne_of_lt (le_of_mem_transferAll keeps member)
    | succ index =>
      have shifted : start + (index + 1) = start + 1 + index := by omega
      rw [List.getElem?_cons_succ, shifted]
      apply ih
      intro later
      rw [get?_receiveAll_of_ne]
      · have slot := slots (later + 1)
        rw [List.getElem?_cons_succ, ← Nat.add_assoc, Nat.add_right_comm] at slot
        exact slot
      · intro transfer member
        rw [own transfer member]
        omega

end TransferAll

/-! ## Pages and bitmaps -/

/-- The bitmap has the size and the texels of the page. -/
structure Page.ShownBy (page : Page) (bitmap : Bitmap) : Prop where
  size_eq : bitmap.size = page.size
  bytes_eq : LittleEndian page.texels bitmap.bytes

/-- What the marks of a page say about the bitmap at its position. -/
inductive Mirrors : Option Page → Option Bitmap → Prop
  | nowhere : Mirrors none none
  | missing {page : Page} (unknown : page.Unknown) : Mirrors (some page) none
  | held {page : Page} {bitmap : Bitmap} (uploaded : page.uploaded = true)
      (size_eq : bitmap.size = page.size) (shown : page.dirty = false → page.ShownBy bitmap) :
      Mirrors (some page) (some bitmap)

/-- The page is clean, and shown as it is. -/
inductive Refreshed : Option Page → Option Bitmap → Prop
  | nowhere : Refreshed none none
  | shown {page : Page} {bitmap : Bitmap} (uploaded : page.uploaded = true)
      (shown : page.ShownBy bitmap) : Refreshed (some page) (some bitmap)

/-- Nothing is held. -/
inductive Dropped : Option Page → Option Bitmap → Prop
  | nowhere : Dropped none none
  | missing {page : Page} (unknown : page.Unknown) : Dropped (some page) none

theorem Refreshed.mirrors {page : Option Page} {bitmap : Option Bitmap}
    (refreshed : Refreshed page bitmap) : Mirrors page bitmap := by
  cases refreshed with
  | nowhere => exact .nowhere
  | shown uploaded shown => exact .held uploaded shown.size_eq fun _ => shown

theorem Dropped.mirrors {page : Option Page} {bitmap : Option Bitmap}
    (dropped : Dropped page bitmap) : Mirrors page bitmap := by
  cases dropped with
  | nowhere => exact .nowhere
  | missing unknown => exact .missing unknown

theorem Dropped.bitmap_eq {page : Option Page} {bitmap : Option Bitmap}
    (dropped : Dropped page bitmap) : bitmap = none := by
  cases dropped <;> rfl

theorem Mirrors.reads {page? : Option Page} {bitmap? : Option Bitmap} (mirrors : Mirrors page? bitmap?) :
    (bitmap?.isSome ↔ ∃ page, page? = some page ∧ page.uploaded = true) ∧
      ∀ page bitmap, page? = some page → bitmap? = some bitmap →
        bitmap.size = page.size ∧ (page.dirty = false → LittleEndian page.texels bitmap.bytes) := by
  cases mirrors with
  | nowhere => simp
  | missing unknown => simp [unknown.1]
  | held uploaded size_eq shown =>
    refine ⟨by simp [uploaded], ?_⟩
    rintro page bitmap ⟨⟩ ⟨⟩
    exact ⟨size_eq, fun clean => (shown clean).bytes_eq⟩

theorem Refreshed.reads {page? : Option Page} {bitmap? : Option Bitmap}
    (refreshed : Refreshed page? bitmap?) :
    (bitmap?.isSome ↔ page?.isSome) ∧
      ∀ page bitmap, page? = some page → bitmap? = some bitmap →
        bitmap.size = page.size ∧ LittleEndian page.texels bitmap.bytes := by
  cases refreshed with
  | nowhere => simp
  | shown uploaded shown =>
    refine ⟨by simp, ?_⟩
    rintro page bitmap ⟨⟩ ⟨⟩
    exact ⟨shown.size_eq, shown.bytes_eq⟩

theorem Mirrors.sync {page : Page} {index : Nat} {bitmaps : Bitmaps}
    (mirrors : Mirrors (some page) (bitmaps.get? index)) :
    Refreshed (some (page.sync index).2)
      ((bitmaps.receiveAll (page.sync index).1.toList).get? index) := by
  cases dirty : page.dirty with
  | true =>
    simp only [Page.sync, Page.flush, dirty, if_true, Option.toList_some, Bitmaps.receiveAll,
      List.foldl_cons, List.foldl_nil, get?_receive, Transfer.page, Transfer.leaves]
    exact .shown rfl ⟨rfl, littleEndian_bytesOfTexels page.texels⟩
  | false =>
    simp only [Page.sync, Page.flush, dirty, Bool.false_eq_true, if_false, Option.toList_none,
      Bitmaps.receiveAll, List.foldl_nil]
    generalize bitmaps.get? index = bitmap at mirrors ⊢
    cases mirrors with
    | missing unknown => cases dirty.symm.trans unknown.2
    | held uploaded size_eq shown => exact .shown uploaded (shown dirty)

theorem Mirrors.dropBitmap {page : Page} {index : Nat} {bitmaps : Bitmaps}
    (mirrors : Mirrors (some page) (bitmaps.get? index)) :
    Dropped (some (page.dropBitmap index).2)
      ((bitmaps.receiveAll (page.dropBitmap index).1.toList).get? index) := by
  cases uploaded : page.uploaded with
  | true =>
    simp only [Page.dropBitmap, uploaded, if_true, Option.toList_some, Bitmaps.receiveAll,
      List.foldl_cons, List.foldl_nil, get?_receive, Transfer.page, Transfer.leaves]
    exact .missing ⟨rfl, rfl⟩
  | false =>
    simp only [Page.dropBitmap, uploaded, Bool.false_eq_true, if_false, Option.toList_none,
      Bitmaps.receiveAll, List.foldl_nil]
    generalize bitmaps.get? index = bitmap at mirrors ⊢
    cases mirrors with
    | missing unknown => exact .missing unknown
    | held uploaded' size_eq shown => cases uploaded.symm.trans uploaded'

theorem Mirrors.drift {page next : Page} {bitmap : Option Bitmap}
    (mirrors : Mirrors (some page) bitmap) (drifts : page.Drifts next) :
    Mirrors (some next) bitmap := by
  cases mirrors with
  | missing unknown =>
    refine .missing ⟨drifts.uploaded_eq.trans unknown.1, ?_⟩
    cases dirty : next.dirty with
    | true => rfl
    | false => cases (drifts.clean dirty).1.symm.trans unknown.2
  | held uploaded size_eq shown =>
    refine .held (drifts.uploaded_eq.trans uploaded) (size_eq.trans drifts.size_eq.symm) ?_
    intro clean
    obtain ⟨clean_before, texels_eq⟩ := drifts.clean clean
    refine ⟨size_eq.trans drifts.size_eq.symm, ?_⟩
    rw [texels_eq]
    exact (shown clean_before).bytes_eq

/-! ## Renderings -/

structure Rendering where
  atlas : Atlas
  bitmaps : Bitmaps

namespace Rendering

/-- Nothing was uploaded yet. -/
def start (atlas : Atlas) : Rendering := ⟨atlas, .empty⟩

def next (rendering : Rendering) (operation : Operation) : Rendering where
  atlas := (rendering.atlas.perform operation).atlas
  bitmaps := rendering.bitmaps.receiveAll (rendering.atlas.perform operation).transfers

def after (rendering : Rendering) (history : List Operation) : Rendering :=
  history.foldl next rendering

@[simp] theorem after_atlas (rendering : Rendering) (history : List Operation) :
    (rendering.after history).atlas = rendering.atlas.after history := by
  induction history generalizing rendering with
  | nil => rfl
  | cons operation history ih => exact ih (rendering.next operation)

/-- At each position the bitmap is what the marks of the page say. -/
def Coherent (rendering : Rendering) : Prop :=
  ∀ index, Mirrors (rendering.atlas.page? index) (rendering.bitmaps.get? index)

theorem coherent_start {settings : Settings} {first : Atlas}
    (success : Atlas.ofSettings settings = .ok first) : (start first).Coherent := by
  rw [Atlas.eq_empty_of_ofSettings success]
  intro index
  exact .nowhere

namespace Coherent

variable {rendering : Rendering}

theorem slots (coherent : rendering.Coherent) (index : Nat) :
    Mirrors rendering.atlas.pages[index]? (rendering.bitmaps.get? (0 + index)) := by
  rw [Nat.zero_add]
  exact coherent index

theorem flush (coherent : rendering.Coherent) (index : Nat) :
    Refreshed ((rendering.next .flush).atlas.page? index)
      ((rendering.next .flush).bitmaps.get? index) := by
  have nowhere : ∀ bitmap, Mirrors none bitmap → Refreshed none bitmap := by
    rintro bitmap ⟨⟩
    exact .nowhere
  have refreshed := transferAll_slots sync_keepsToItself nowhere (fun _ _ _ => Mirrors.sync)
    coherent.slots index
  rw [Nat.zero_add] at refreshed
  rw [next, Atlas.perform_flush]
  exact refreshed

theorem dropBitmaps (coherent : rendering.Coherent) (index : Nat) :
    Dropped ((rendering.next .dropBitmaps).atlas.page? index)
      ((rendering.next .dropBitmaps).bitmaps.get? index) := by
  have nowhere : ∀ bitmap, Mirrors none bitmap → Dropped none bitmap := by
    rintro bitmap ⟨⟩
    exact .nowhere
  have dropped := transferAll_slots dropBitmap_keepsToItself nowhere
    (fun _ _ _ => Mirrors.dropBitmap) coherent.slots index
  rw [Nat.zero_add] at dropped
  exact dropped

/-- Clearing releases the same bitmaps as dropping them. -/
theorem clear (coherent : rendering.Coherent) (index : Nat) :
    Dropped ((rendering.next .clear).atlas.page? index) ((rendering.next .clear).bitmaps.get? index) := by
  have released : (rendering.next .clear).bitmaps.get? index = none :=
    (coherent.dropBitmaps index).bitmap_eq
  rw [released]
  exact .nowhere

theorem next (coherent : rendering.Coherent) (valid : ∀ page ∈ rendering.atlas.pages, page.Valid)
    (operation : Operation) : (rendering.next operation).Coherent := by
  intro index
  cases sends : operation.sends with
  | true =>
    cases operation with
    | flush => exact (coherent.flush index).mirrors
    | dropBitmaps => exact (coherent.dropBitmaps index).mirrors
    | clear => exact (coherent.clear index).mirrors
    | getOrCreate | getOrCreateNamed | free | setPageLimit | setPageSize | setRegistry => cases sends
  | false =>
    obtain ⟨drift, silent⟩ := Atlas.perform_quiet valid sends
    have mirrors := coherent index
    simp only [Rendering.next, silent, Bitmaps.receiveAll, List.foldl_nil, Atlas.page?] at mirrors ⊢
    rcases drift.lookup index with ⟨page, page', found, found', drifts⟩ | ⟨absent, joined⟩
    · rw [found] at mirrors
      rw [found']
      exact mirrors.drift drifts
    · rw [absent] at mirrors
      generalize rendering.bitmaps.get? index = bitmap at mirrors ⊢
      cases mirrors
      cases found : (rendering.atlas.perform operation).atlas.pages[index]? with
      | none => exact .nowhere
      | some page => exact .missing (joined page found)

theorem after (coherent : rendering.Coherent) (reachable : rendering.atlas.Reachable)
    (history : List Operation) : (rendering.after history).Coherent := by
  induction history generalizing rendering with
  | nil => exact coherent
  | cons operation history ih =>
    exact ih (coherent.next reachable.sound.page_valid operation) (reachable.after [operation])

end Coherent

/-- Whatever was done before, a bitmap is held for exactly the uploaded pages, of their size, and with
their texels where the page is clean. After a flush every page is shown as it is, after dropping the
bitmaps or clearing nothing is held. -/
theorem bitmaps_mirror_pages {settings : Settings} {first : Atlas}
    (success : Atlas.ofSettings settings = .ok first) {history : List Operation}
    {rendering : Rendering} (reached : (start first).after history = rendering) :
    (∀ index, ((rendering.bitmaps.get? index).isSome ↔
        ∃ page, rendering.atlas.page? index = some page ∧ page.uploaded = true) ∧
      ∀ page bitmap, rendering.atlas.page? index = some page →
        rendering.bitmaps.get? index = some bitmap →
          bitmap.size = page.size ∧ (page.dirty = false → LittleEndian page.texels bitmap.bytes)) ∧
    (∀ index, (((rendering.next .flush).bitmaps.get? index).isSome ↔
        ((rendering.next .flush).atlas.page? index).isSome) ∧
      ∀ page bitmap, (rendering.next .flush).atlas.page? index = some page →
        (rendering.next .flush).bitmaps.get? index = some bitmap →
          bitmap.size = page.size ∧ LittleEndian page.texels bitmap.bytes) ∧
    (∀ index, (rendering.next .dropBitmaps).bitmaps.get? index = none) ∧
    ∀ index, (rendering.next .clear).bitmaps.get? index = none := by
  have coherent : rendering.Coherent := by
    rw [← reached]
    exact (coherent_start success).after ⟨settings, first, [], success, rfl⟩ history
  refine ⟨fun index => (coherent index).reads, fun index => (coherent.flush index).reads,
    fun index => (coherent.dropBitmaps index).bitmap_eq, fun index => (coherent.clear index).bitmap_eq⟩

/-- The page was flushed and painted on again. -/
theorem bitmaps_mirror_pages_sample :
    let rendering := (start (Atlas.empty Atlas.sampleSettings)).after
      (Atlas.sampleHistory ++ [.flush, .getOrCreate ⟨4⟩ (.packed 1 1 #[5]) (.dedicated ⟨2, 2⟩), .free ⟨3⟩,
        .getOrCreate ⟨5⟩ (.packed 1 1 #[4]) .shared])
    (rendering.atlas.page? 0).any (fun page => page.uploaded && page.dirty) = true ∧
      (rendering.bitmaps.get? 0).isSome ∧ rendering.bitmaps.get? 1 = none ∧
      (∀ page bitmap, (rendering.next .flush).atlas.page? 1 = some page →
        (rendering.next .flush).bitmaps.get? 1 = some bitmap →
          bitmap.size = page.size ∧ LittleEndian page.texels bitmap.bytes) ∧
      ∀ index, (rendering.next .clear).bitmaps.get? index = none := by
  intro rendering
  obtain ⟨_, refreshed, _, released⟩ :=
    @bitmaps_mirror_pages Atlas.sampleSettings (Atlas.empty Atlas.sampleSettings) rfl _ rendering rfl
  exact ⟨by decide +kernel, by decide +kernel, by decide +kernel, (refreshed 1).2, released⟩

end Rendering
end TextureAtlas
