import TextureAtlas.Proofs.Atlas.Pages

/-! # What one operation does

`Step` lists all that one operation can do to the pages and to the table of fragments of a reachable
atlas: at most one page is filled, opened or relieved of a fragment, and the others keep everything but
their marks. For a single page this comes down to three fates (`Page.Fate`), as long as the atlas is not
cleared. -/
set_option autoImplicit false

namespace TextureAtlas

/-- What kind of page the fragment that is asked for shall go to. -/
def Operation.allocation? : Operation → Option Allocation
  | .getOrCreate _ _ allocation => some allocation
  | .getOrCreateNamed _ _ allocation => some allocation
  | .free _ | .clear | .flush | .dropBitmaps | .setPageLimit _ | .setPageSize _ | .setRegistry _ => none

/-! ## Pages that are asked for a place -/

/-- The page as it was, but that it may have been found full, or not full. -/
def Page.Consulted (page next : Page) : Prop := ∃ full, next = { page with exhausted := full }

theorem Page.Consulted.refl (page : Page) : page.Consulted page := ⟨page.exhausted, rfl⟩

theorem consulted_refl (pages : List Page) : List.Forall₂ Page.Consulted pages pages :=
  List.forall₂_same.mpr fun page _ => .refl page

theorem Passed.consulted {eligible : Page → Bool} {image : Image} {page next : Page}
    (passed : Passed eligible image page next) : page.Consulted next := by
  cases passed with
  | skipped closed => exact .refl page
  | refused opened result refuses =>
    cases refuses with
    | invalid | oversized => exact .refl page
    | noRoom => exact ⟨_, rfl⟩

theorem consulted_of_passed {eligible : Page → Bool} {image : Image} {pages passed : List Page}
    (all : List.Forall₂ (Passed eligible image) pages passed) :
    List.Forall₂ Page.Consulted pages passed := all.imp fun _ _ => Passed.consulted

theorem getElem?_of_forall₂ {related : Page → Page → Prop} {pages others : List Page}
    (each : List.Forall₂ related pages others) {index : Nat} {page : Page}
    (found : pages[index]? = some page) : ∃ other, others[index]? = some other ∧ related page other := by
  obtain ⟨inside, rfl⟩ := List.getElem?_eq_some_iff.mp found
  have inside' : index < others.length := each.length_eq ▸ inside
  exact ⟨others[index], List.getElem?_eq_getElem inside', each.get inside inside'⟩

theorem getElem?_transferAll (operation : Page → Nat → Option Transfer × Page) (start : Nat)
    (pages : List Page) (index : Nat) :
    (transferAll operation start pages).2[index]? =
      pages[index]?.map fun page => (operation page (start + index)).2 := by
  induction pages generalizing start index with
  | nil => rfl
  | cons page pages ih =>
    cases index with
    | zero => rfl
    | succ index =>
      have shifted : start + (index + 1) = start + 1 + index := by omega
      rw [shifted]
      exact ih (start + 1) index

/-! ## Steps of an atlas -/

namespace Atlas

/-- The pages and the table that an operation may leave behind. -/
inductive Step (atlas : Atlas) : Operation → List Page → Table FragmentId Fragment → Prop
  /-- No fragment comes or goes. -/
  | consulted {operation : Operation} {pages : List Page}
      (each : List.Forall₂ Page.Consulted atlas.pages pages)
      (absent : ∀ id, operation = .free id → atlas.get? id = none) :
      Step atlas operation pages atlas.fragments
  | filled {operation : Operation} {id : FragmentId} {image : Image} {index : Nat} {page next : Page}
      {placement : Placement} {pages : List Page}
      (request : operation.request? = some (id, image)) (absent : atlas.get? id = none)
      (found : atlas.pages[index]? = some page) (shared : page.dedicated = false)
      (inserts : page.Inserts image placement next)
      (each : List.Forall₂ Page.Consulted atlas.pages pages) :
      Step atlas operation (pages.set index next)
        (atlas.fragments.insert id (placement.fragment id index))
  | opened {operation : Operation} {id : FragmentId} {image : Image} {allocation : Allocation}
      {size : Size} {blank next : Page} {placement : Placement} {pages : List Page}
      (request : operation.request? = some (id, image))
      (allocated : operation.allocation? = some allocation) (absent : atlas.get? id = none)
      (left : atlas.pagesUsedUp = false)
      (sized : pageSizeFor image atlas.settings.borderWidth
        (allocation.floor atlas.settings.pageSize) = .ok size)
      (isBlank : Page.IsBlank size atlas.settings.borderWidth allocation.isDedicated blank)
      (inserts : blank.Inserts image placement next)
      (each : List.Forall₂ Page.Consulted atlas.pages pages) :
      Step atlas operation (pages ++ [next])
        (atlas.fragments.insert id (placement.fragment id atlas.pageCount))
  | freed {id : FragmentId} {fragment : Fragment} {page next : Page}
      (live : atlas.get? id = some fragment) (found : atlas.pages[fragment.page]? = some page)
      (removed : page.remove fragment.row fragment.span = (.ok (), next)) :
      Step atlas (.free id) (atlas.pages.set fragment.page next) (atlas.fragments.erase id)
  | flushed : Step atlas .flush (transferAll Page.sync 0 atlas.pages).2 atlas.fragments
  | bitmapsDropped :
      Step atlas .dropBitmaps (transferAll Page.dropBitmap 0 atlas.pages).2 atlas.fragments
  | cleared : Step atlas .clear [] Table.empty

variable {atlas : Atlas} {operation : Operation}

/-- A step that leaves pages and table as they are. -/
theorem step_refl (atlas : Atlas) (absent : ∀ id, operation = .free id → atlas.get? id = none) :
    atlas.Step operation atlas.pages atlas.fragments := .consulted (consulted_refl atlas.pages) absent

section Creation

variable {id : FragmentId} {image : Image} {allocation : Allocation} {registry : Option LabelRegistry}
  (request : operation.request? = some (id, image))
  (allocated : operation.allocation? = some allocation)

include request allocated

/-- What the registry is makes no difference to the pages. -/
theorem Creates.step {reply : Reply Fragment} (absent : atlas.get? id = none)
    (creates : Creates Page.isOpen { atlas with registry } id image allocation reply) :
    atlas.Step operation reply.atlas.pages reply.atlas.fragments := by
  have frees_nothing : ∀ id, operation = .free id → atlas.get? id = none := by
    rintro id rfl
    cases request
  cases creates with
  | invalid refused => exact atlas.step_refl frees_nothing
  | nowhere validated locates =>
    cases locates with
    | elsewhere all opens =>
      cases opens with
      | tooLarge | usedUp => exact .consulted (consulted_of_passed all) frees_nothing
  | placed validated locates =>
    cases locates with
    | @onPage before after passed page next placement split all opened result inserts =>
      dsimp only at split
      have found : atlas.pages[before.length]? = some page := by simp [split]
      have each : List.Forall₂ Page.Consulted atlas.pages (passed ++ page :: after) := by
        rw [split]
        exact List.rel_append (consulted_of_passed all) (consulted_refl _)
      have set_eq : (passed ++ page :: after).set before.length next = passed ++ next :: after := by
        rw [all.length_eq]
        simp
      have step := Step.filled request absent found (Allocation.shared_of_among opened) inserts each
      rw [set_eq] at step
      exact step
    | @elsewhere passed _ all opens =>
      cases opens with
      | opened sized left blanked result inserts =>
        have count_eq : atlas.pages.length = passed.length := all.length_eq
        have still_left : atlas.pagesUsedUp = false := by
          rw [← left, pagesUsedUp, pagesUsedUp, pageCount, pageCount, count_eq]
        have step := Step.opened request allocated absent still_left sized
          (Page.isBlank_of_blank blanked) inserts (consulted_of_passed all)
        rw [pageCount, count_eq] at step
        exact step

theorem getOrCreateAmong_step (valid : ∀ page ∈ atlas.pages, page.Valid) :
    atlas.Step operation
      ({ atlas with registry }.getOrCreateAmong Page.isOpen id image allocation).atlas.pages
      ({ atlas with registry }.getOrCreateAmong Page.isOpen id image allocation).atlas.fragments := by
  rcases @getOrCreateAmong_cases Page.isOpen { atlas with registry } valid id image allocation with
    ⟨fragment, _, result⟩ | ⟨absent, creates⟩
  · rw [result]
    apply atlas.step_refl
    rintro id rfl
    cases request
  · exact creates.step request allocated absent

end Creation

/-- A fragment that is there can be freed. -/
theorem Sound.free_step (sound : atlas.Sound) (id : FragmentId) :
    atlas.Step (.free id) (atlas.free id).atlas.pages (atlas.free id).atlas.fragments := by
  rcases sound.ready.free_cases id with
    ⟨absent, result⟩ | ⟨_, _, _, live, found, removed, _, result⟩ <;> rw [result]
  · apply atlas.step_refl
    rintro _ ⟨⟩
    exact absent
  · exact .freed live found removed

theorem Reachable.step (reachable : atlas.Reachable) (operation : Operation) :
    atlas.Step operation (atlas.perform operation).atlas.pages
      (atlas.perform operation).atlas.fragments := by
  have valid := reachable.sound.page_valid
  cases operation with
  | getOrCreate id image allocation =>
    exact @getOrCreateAmong_step atlas _ id image allocation atlas.registry rfl rfl valid
  | getOrCreateNamed label image allocation =>
    simp only [perform, performAmong, Reply.map]
    rcases atlas.getOrCreateNamedAmong_cases Page.isOpen label image allocation with
      ⟨_, _, _, _, result⟩ | ⟨_, registry, result⟩ <;> rw [result]
    · exact atlas.step_refl (by simp)
    · exact getOrCreateAmong_step rfl rfl valid
  | free id => exact reachable.sound.free_step id
  | clear => exact .cleared
  | flush =>
    rw [perform_flush]
    exact .flushed
  | dropBitmaps => exact .bitmapsDropped
  | setPageLimit limit => exact atlas.step_refl (by simp)
  | setPageSize size =>
    obtain ⟨_, settings, _, result⟩ := performAmong_setPageSize Page.isOpen atlas size
    rw [perform, result]
    exact atlas.step_refl (by simp)
  | setRegistry registry => exact atlas.step_refl (by simp)

/-- The fragment that is asked for is the first on the page `next`, which was opened for it. -/
inductive Opening (atlas : Atlas) (operation : Operation) (next : Page) :
    Table FragmentId Fragment → Prop
  | intro {id : FragmentId} {image : Image} {allocation : Allocation} {size : Size} {blank : Page}
      {placement : Placement} (request : operation.request? = some (id, image))
      (allocated : operation.allocation? = some allocation)
      (sized : pageSizeFor image atlas.settings.borderWidth
        (allocation.floor atlas.settings.pageSize) = .ok size)
      (isBlank : Page.IsBlank size atlas.settings.borderWidth allocation.isDedicated blank)
      (inserts : blank.Inserts image placement next) :
      Opening atlas operation next
        (atlas.fragments.insert id (placement.fragment id atlas.pageCount))

/-- A page that was not there before is the last one. -/
theorem Step.opening {pages : List Page} {fragments : Table FragmentId Fragment}
    (step : atlas.Step operation pages fragments) {index : Nat} {page : Page}
    (absent : atlas.page? index = none) (found : pages[index]? = some page) :
    index = atlas.pageCount ∧ atlas.Opening operation page fragments := by
  have beyond : atlas.pages.length ≤ index := List.getElem?_eq_none_iff.mp absent
  have inside := (List.getElem?_eq_some_iff.mp found).1
  cases step with
  | consulted each =>
    have length_eq := each.length_eq
    omega
  | filled request absent found' shared inserts each =>
    have length_eq := each.length_eq
    rw [List.length_set] at inside
    omega
  | @opened _ _ _ _ _ _ _ _ pages request allocated absent' left sized isBlank inserts each =>
    have length_eq := each.length_eq
    rw [List.length_append, List.length_singleton] at inside
    have index_eq : index = pages.length := by omega
    subst index_eq
    cases List.getElem?_concat_length.symm.trans found
    exact ⟨length_eq.symm, .intro request allocated sized isBlank inserts⟩
  | freed =>
    rw [List.length_set] at inside
    omega
  | flushed | bitmapsDropped =>
    rw [getElem?_transferAll, show atlas.pages[index]? = none from absent] at found
    cases found
  | cleared => cases found

end Atlas

/-! ## The fate of a page -/

/-- What becomes of a page while the atlas is not cleared. -/
inductive Page.Fate (page : Page) : Page → Prop
  | marked {next : Page} (unmarked_eq : next.unmarked = page.unmarked) : Fate page next
  | filled {image : Image} {placement : Placement} {next : Page} (shared : page.dedicated = false)
      (inserts : page.Inserts image placement next) : Fate page next
  | emptied {row : Nat} {span : Span} {next : Page} (removed : page.remove row span = (.ok (), next)) :
      Fate page next

theorem Page.Consulted.fate {page next : Page} (consulted : page.Consulted next) : page.Fate next := by
  obtain ⟨full, rfl⟩ := consulted
  exact .marked rfl

namespace Atlas

variable {atlas : Atlas} {operation : Operation} {pages : List Page}
  {fragments : Table FragmentId Fragment}

theorem Step.fate (step : atlas.Step operation pages fragments) (uncleared : operation ≠ .clear)
    {index : Nat} {page : Page} (found : atlas.page? index = some page) :
    ∃ next, pages[index]? = some next ∧ page.Fate next := by
  have kept : ∀ {others : List Page}, List.Forall₂ Page.Consulted atlas.pages others →
      ∃ next, others[index]? = some next ∧ page.Fate next := by
    intro others each
    obtain ⟨next, found', consulted⟩ := getElem?_of_forall₂ each found
    exact ⟨next, found', consulted.fate⟩
  cases step with
  | consulted each => exact kept each
  | @filled _ _ _ filled _ next _ others request absent found' shared inserts each =>
    by_cases same : filled = index
    · subst same
      cases found.symm.trans found'
      have inside : filled < others.length := by
        rw [← each.length_eq]
        exact (List.getElem?_eq_some_iff.mp found).1
      exact ⟨next, List.getElem?_set_self inside, .filled shared inserts⟩
    · rw [List.getElem?_set_ne same]
      exact kept each
  | opened request allocated absent left sized isBlank inserts each =>
    obtain ⟨next, found', fate⟩ := kept each
    have inside := (List.getElem?_eq_some_iff.mp found').1
    exact ⟨next, (List.getElem?_append_left inside).trans found', fate⟩
  | @freed _ fragment _ next live found' removed =>
    by_cases same : fragment.page = index
    · rw [same] at found' ⊢
      cases found.symm.trans found'
      have inside := (List.getElem?_eq_some_iff.mp found).1
      exact ⟨next, List.getElem?_set_self inside, .emptied removed⟩
    · rw [List.getElem?_set_ne same]
      exact kept (consulted_refl atlas.pages)
  | flushed =>
    rw [getElem?_transferAll, show atlas.pages[index]? = some page from found]
    exact ⟨_, rfl, .marked (page.flush_unmarked _)⟩
  | bitmapsDropped =>
    rw [getElem?_transferAll, show atlas.pages[index]? = some page from found]
    exact ⟨_, rfl, .marked (page.dropBitmap_unmarked _)⟩
  | cleared => exact absurd rfl uncleared

end Atlas
end TextureAtlas
