import Mathlib.Logic.Relation
import TextureAtlas.Proofs.Atlas.Replies
import TextureAtlas.Proofs.Atlas.History

/-! # What an operation can do

Every operation comes down to a few changes: marks are set on pages, a blank page is opened, an image is
placed on a page under an id that is free, a place is given back, or everything goes (`Change`). As
long as an atlas is ready it meets no other outcome (`next_changes`), so what the changes keep is kept by
every history (`Chronicle.keeps`). -/
set_option autoImplicit false

namespace TextureAtlas

inductive Change : Chronicle → Chronicle → Prop
  /-- Nothing but marks, the registry and the settings for later pages. -/
  | marked {atlas : Atlas} {source : FragmentId → Option Image} {settings : Settings}
      {pages : List Page} {registry : Option LabelRegistry}
      (border_eq : settings.border = atlas.settings.border)
      (unmarked_eq : pages.map Page.unmarked = atlas.pages.map Page.unmarked) :
      Change ⟨atlas, source⟩ ⟨⟨settings, pages, atlas.fragments, registry⟩, source⟩
  | opened {atlas : Atlas} {source : FragmentId → Option Image} {size : Size} {dedicated : Bool}
      {page : Page} (blank : Page.IsBlank size atlas.settings.borderWidth dedicated page) :
      Change ⟨atlas, source⟩ ⟨{ atlas with pages := atlas.pages ++ [page] }, source⟩
  | placed {atlas : Atlas} {source : FragmentId → Option Image} {id : FragmentId} {image : Image}
      {index : Nat} {page next : Page} {placement : Placement} (absent : atlas.get? id = none)
      (found : atlas.pages[index]? = some page) (inserts : page.Inserts image placement next) :
      Change ⟨atlas, source⟩
        ⟨{ atlas with
            pages := atlas.pages.set index next
            fragments := atlas.fragments.insert id (placement.fragment id index) },
          Function.update source id (some image)⟩
  | freed {atlas : Atlas} {source : FragmentId → Option Image} {id : FragmentId}
      {fragment : Fragment} {page next : Page} (live : atlas.get? id = some fragment)
      (found : atlas.pages[fragment.page]? = some page)
      (removes : page.Removes fragment.row fragment.span next) :
      Change ⟨atlas, source⟩
        ⟨{ atlas with
            pages := atlas.pages.set fragment.page next
            fragments := atlas.fragments.erase id }, source⟩
  | cleared {atlas : Atlas} {source : FragmentId → Option Image} :
      Change ⟨atlas, source⟩ ⟨{ atlas with pages := [], fragments := Table.empty }, source⟩

/-- Some changes, one after the other. -/
abbrev Changes : Chronicle → Chronicle → Prop := Relation.ReflTransGen Change

/-! ## Flushing -/

/-- A flush of a page but for its answer. -/
def Page.sync (page : Page) (index : Nat) : Option Transfer × Page := (page.flush index).2

/-- The answer tells whether there is an upload. -/
theorem Page.flush_eq (page : Page) (index : Nat) :
    page.flush index = ((page.sync index).1.isSome, page.sync index) := by
  simp only [sync, flush]
  split <;> rfl

theorem flushAll_eq (any : Bool) (index : Nat) (pages : List Page) :
    flushAll any index pages =
      (any || !(transferAll Page.sync index pages).1.isEmpty, transferAll Page.sync index pages) := by
  induction pages generalizing any index with
  | nil => simp [flushAll, transferAll]
  | cons page pages ih =>
    simp only [flushAll, transferAll, ih, Page.flush_eq]
    cases (page.sync index).1 <;> simp

namespace Atlas

variable {eligible : Page → Bool} {atlas next : Atlas} {image : Image} {journal : List Record}
  {transfers : List Transfer} {source : FragmentId → Option Image}

theorem passed_changes {passed : List Page}
    (all : List.Forall₂ (Passed eligible image) atlas.pages passed) :
    Changes ⟨atlas, source⟩ ⟨{ atlas with pages := passed }, source⟩ :=
  .single (.marked rfl (unmarked_of_passed all))

theorem Opens.atlas_eq_of_error {floor : Size} {dedicated : Bool} {failure : Failure}
    (opens : atlas.Opens image floor dedicated ⟨.error failure, journal, transfers, next⟩) :
    next = atlas := by
  cases opens <;> rfl

theorem Opens.changes_of_ok {floor : Size} {dedicated : Bool} {index : Nat} {placement : Placement}
    {id : FragmentId} (absent : atlas.get? id = none)
    (opens : atlas.Opens image floor dedicated
      ⟨.ok (index, placement), journal, transfers, next⟩) :
    Changes ⟨atlas, source⟩
      ⟨{ next with fragments := next.fragments.insert id (placement.fragment id index) },
        Function.update source id (some image)⟩ := by
  cases opens with
  | @opened _ page next _ sized left blank result inserts =>
    have found : (atlas.pages ++ [page])[atlas.pages.length]? = some page := by simp
    have set_eq : (atlas.pages ++ [page]).set atlas.pages.length next = atlas.pages ++ [next] := by simp
    have opened : Changes ⟨atlas, source⟩ ⟨{ atlas with pages := atlas.pages ++ [page] }, source⟩ :=
      .single (.opened (Page.isBlank_of_blank blank))
    refine opened.tail ?_
    rw [← set_eq]
    exact .placed absent found inserts

namespace Locates

variable {floor : Size} {dedicated : Bool}

theorem changes_of_error {failure : Failure}
    (locates : Locates eligible atlas image floor dedicated
      ⟨.error failure, journal, transfers, next⟩) :
    Changes ⟨atlas, source⟩ ⟨next, source⟩ := by
  cases locates with
  | elsewhere all opens =>
    rw [opens.atlas_eq_of_error]
    exact passed_changes all

theorem changes_of_ok {index : Nat} {placement : Placement} {id : FragmentId}
    (absent : atlas.get? id = none)
    (locates : Locates eligible atlas image floor dedicated
      ⟨.ok (index, placement), journal, transfers, next⟩) :
    Changes ⟨atlas, source⟩
      ⟨{ next with fragments := next.fragments.insert id (placement.fragment id index) },
        Function.update source id (some image)⟩ := by
  cases locates with
  | @onPage before after passed page next placement split all opened result inserts =>
    have marks : List.map Page.unmarked (passed ++ page :: after) = atlas.pages.map Page.unmarked := by
      rw [split, List.map_append, List.map_append, unmarked_of_passed all]
    have found : (passed ++ page :: after)[before.length]? = some page := by
      rw [all.length_eq]
      simp
    have set_eq : (passed ++ page :: after).set before.length next = passed ++ next :: after := by
      rw [all.length_eq]
      simp
    have marked : Changes ⟨atlas, source⟩ ⟨{ atlas with pages := passed ++ page :: after }, source⟩ :=
      .single (.marked rfl marks)
    refine marked.tail ?_
    rw [← set_eq]
    exact .placed absent found inserts
  | elsewhere all opens => exact (passed_changes all).trans (opens.changes_of_ok absent)

end Locates

theorem contains_eq (atlas : Atlas) (id : FragmentId) :
    atlas.contains id = (atlas.get? id).isSome := rfl

/-- A fragment that was absent is created from its image, or else it stays absent. -/
theorem Creates.changes {id : FragmentId} {allocation : Allocation} {reply : Reply Fragment}
    (absent : atlas.get? id = none) (creates : atlas.Creates eligible id image allocation reply) :
    Changes ⟨atlas, source⟩ ⟨reply.atlas,
      if reply.atlas.contains id then Function.update source id (some image) else source⟩ := by
  cases creates with
  | invalid refused =>
    rw [contains_eq, absent]
    exact .refl
  | nowhere validated locates =>
    rw [contains_eq, get?, locates.fragments_eq, ← get?, absent]
    exact locates.changes_of_error
  | placed validated locates =>
    rw [contains_eq, get?, Table.get?_insert_self]
    exact locates.changes_of_ok absent

theorem getOrCreateAmong_changes (eligible : Page → Bool) {atlas : Atlas}
    (valid : ∀ page ∈ atlas.pages, page.Valid) (id : FragmentId) (image : Image)
    (allocation : Allocation) (source : FragmentId → Option Image) :
    Changes ⟨atlas, source⟩ ⟨(atlas.getOrCreateAmong eligible id image allocation).atlas,
      if !atlas.contains id && (atlas.getOrCreateAmong eligible id image allocation).atlas.contains id
      then Function.update source id (some image) else source⟩ := by
  rcases getOrCreateAmong_cases eligible valid id image allocation with
    ⟨fragment, found, result⟩ | ⟨absent, creates⟩
  · rw [result, contains_eq, found]
    exact .refl
  · rw [contains_eq, absent]
    exact creates.changes absent

theorem getOrCreateNamedAmong_changes (eligible : Page → Bool) {atlas : Atlas}
    (valid : ∀ page ∈ atlas.pages, page.Valid) (label : String) (image : Image)
    (allocation : Allocation) (source : FragmentId → Option Image) :
    Changes ⟨atlas, source⟩ ⟨(atlas.getOrCreateNamedAmong eligible label image allocation).atlas,
      if !atlas.contains (.ofLabel label) &&
        (atlas.getOrCreateNamedAmong eligible label image allocation).atlas.contains (.ofLabel label)
      then Function.update source (.ofLabel label) (some image) else source⟩ := by
  rcases atlas.getOrCreateNamedAmong_cases eligible label image allocation with
    ⟨registry, fault, _, _, result⟩ | ⟨_, registry, result⟩
  · rw [result, Bool.not_and_self]
    exact .refl
  · have heard : Change ⟨atlas, source⟩ ⟨{ atlas with registry }, source⟩ := .marked rfl rfl
    have changes := @getOrCreateAmong_changes eligible { atlas with registry } valid (.ofLabel label)
      image allocation source
    rw [result]
    exact .head heard changes

theorem free_changes {atlas : Atlas} (ready : atlas.Ready) (id : FragmentId)
    (source : FragmentId → Option Image) :
    Changes ⟨atlas, source⟩ ⟨(atlas.free id).atlas, source⟩ := by
  rcases ready.free_cases id with ⟨_, result⟩ | ⟨_, _, _, live, found, _, removes, result⟩
  · rw [result]
  · rw [result]
    exact .single (.freed live found removes)

/-- What the operation leaves alone on a page, it leaves alone on all. -/
theorem transferAll_map {α : Type} {view : Page → α} {operation : Page → Nat → Option Transfer × Page}
    (same : ∀ page index, view (operation page index).2 = view page) (index : Nat)
    (pages : List Page) :
    (transferAll operation index pages).2.map view = pages.map view := by
  induction pages generalizing index with
  | nil => rfl
  | cons page pages ih => simp only [transferAll, List.map_cons, same, ih]

/-- The answer tells whether anything was uploaded. -/
theorem flush_eq (atlas : Atlas) :
    atlas.flush = {
      outcome := .ok !(transferAll Page.sync 0 atlas.pages).1.isEmpty
      transfers := (transferAll Page.sync 0 atlas.pages).1
      atlas := { atlas with pages := (transferAll Page.sync 0 atlas.pages).2 } } := by
  simp only [flush, flushAll_eq, Bool.false_or]

theorem perform_flush (atlas : Atlas) :
    atlas.perform .flush = {
      outcome := .ok (.flushed !(transferAll Page.sync 0 atlas.pages).1.isEmpty)
      transfers := (transferAll Page.sync 0 atlas.pages).1
      atlas := { atlas with pages := (transferAll Page.sync 0 atlas.pages).2 } } := by
  rw [perform, performAmong, flush_eq]
  rfl

/-- A size that is refused leaves the settings as they are. -/
theorem setPageSize_cases (atlas : Atlas) (size : Size) :
    (∃ error, { atlas.settings with pageSize := size }.validate = .error error ∧
      atlas.setPageSize size = (.error error, atlas)) ∨
    { atlas.settings with pageSize := size }.validate = .ok () ∧
      atlas.setPageSize size =
        (.ok (), { atlas with settings := { atlas.settings with pageSize := size } }) := by
  simp only [setPageSize]
  cases validated : { atlas.settings with pageSize := size }.validate with
  | error error => exact Or.inl ⟨error, rfl, rfl⟩
  | ok done => exact Or.inr ⟨rfl, rfl⟩

/-- Whatever is answered, nothing but the settings may be other than before, and not the border. -/
theorem performAmong_setPageSize (eligible : Page → Bool) (atlas : Atlas) (size : Size) :
    ∃ outcome settings, settings.border = atlas.settings.border ∧
      atlas.performAmong eligible (.setPageSize size) =
        { outcome, atlas := { atlas with settings } } := by
  simp only [performAmong]
  rcases atlas.setPageSize_cases size with ⟨error, _, result⟩ | ⟨_, result⟩ <;> rw [result]
  · exact ⟨_, atlas.settings, rfl, rfl⟩
  · exact ⟨_, { atlas.settings with pageSize := size }, rfl, rfl⟩

end Atlas

namespace Chronicle

theorem next_of_request {atlas : Atlas} {source : FragmentId → Option Image} {operation : Operation}
    {id : FragmentId} {image : Image} (request : operation.request? = some (id, image)) :
    next ⟨atlas, source⟩ operation = ⟨(atlas.perform operation).atlas,
      if !atlas.contains id && (atlas.perform operation).atlas.contains id
      then Function.update source id (some image) else source⟩ := by
  simp only [next, Atlas.created?, request, Option.filter_some]
  by_cases created : (!atlas.contains id && (atlas.perform operation).atlas.contains id) = true
  · simp only [if_pos created]
  · simp only [if_neg created]

theorem next_changes {chronicle : Chronicle} (ready : chronicle.atlas.Ready) (operation : Operation) :
    Changes chronicle (chronicle.next operation) := by
  obtain ⟨atlas, source⟩ := chronicle
  have valid := ready.page_valid
  cases operation with
  | getOrCreate id image allocation =>
    rw [next_of_request rfl]
    exact Atlas.getOrCreateAmong_changes Page.isOpen valid id image allocation source
  | getOrCreateNamed label image allocation =>
    rw [next_of_request rfl]
    exact Atlas.getOrCreateNamedAmong_changes Page.isOpen valid label image allocation source
  | free id => exact Atlas.free_changes ready id source
  | clear => exact .single .cleared
  | flush =>
    have same := Atlas.transferAll_map Page.flush_unmarked 0 atlas.pages
    simp only [next, Atlas.perform_flush]
    exact .single (.marked rfl same)
  | dropBitmaps =>
    have same := Atlas.transferAll_map Page.dropBitmap_unmarked 0 atlas.pages
    exact .single (.marked rfl same)
  | setPageLimit limit => exact .single (.marked rfl rfl)
  | setPageSize size =>
    obtain ⟨_, settings, border_eq, result⟩ := Atlas.performAmong_setPageSize Page.isOpen atlas size
    rw [next, Atlas.perform, result]
    exact .single (.marked border_eq rfl)
  | setRegistry registry => exact .single (.marked rfl rfl)

/-- What holds of a chronicle whose atlas is ready, and is kept by each change, holds after every
history. -/
theorem keeps {holds : Chronicle → Prop}
    (ready : ∀ chronicle, holds chronicle → chronicle.atlas.Ready)
    (step : ∀ chronicle next, holds chronicle → Change chronicle next → holds next)
    {chronicle : Chronicle} (start : holds chronicle) (history : List Operation) :
    holds (chronicle.after history) := by
  induction history generalizing chronicle with
  | nil => exact start
  | cons operation history ih =>
    apply ih
    have changes := next_changes (ready chronicle start) operation
    generalize chronicle.next operation = next at changes
    induction changes with
    | refl => exact start
    | tail _ change held => exact step _ _ held change

end Chronicle
end TextureAtlas
