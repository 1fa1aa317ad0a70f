import TextureAtlas.Proofs.Atlas.Pages

/-! # Layout

The layout of an atlas is all of it but the texels and what the renderer has of them. Places are found by
the layout alone: asked for images of the same size, two atlases with the same layout give the same
reply, transfers apart, and have the same layout afterwards (`perform_alike`). What only concerns the
renderer leaves the layout alone. -/
set_option autoImplicit false

namespace TextureAtlas

/-- Of the same size, and both valid, or refused for the same reason. -/
structure Image.Alike (image other : Image) : Prop where
  size_eq : image.size = other.size
  validate_eq : image.validate = other.validate

theorem Image.alike_of_valid {image other : Image} (validated : image.validate = .ok ())
    (validated' : other.validate = .ok ()) (size_eq : image.size = other.size) : image.Alike other :=
  ⟨size_eq, validated.trans validated'.symm⟩

theorem Image.Alike.refl (image : Image) : image.Alike image := ⟨rfl, rfl⟩

/-! ## Pages -/

namespace Page

structure Layout where
  packing : Packing
  border : Nat
  dedicated : Bool
  exhausted : Bool
deriving DecidableEq

def layout (page : Page) : Layout := ⟨page.packing, page.border, page.dedicated, page.exhausted⟩

theorem layout_eq_iff {page other : Page} : page.layout = other.layout ↔
    page.packing = other.packing ∧ page.border = other.border ∧ page.dedicated = other.dedicated ∧
      page.exhausted = other.exhausted := by
  simp only [layout, Layout.mk.injEq]

theorem isOpen_eq_of_layout_eq {page other : Page} (same : page.layout = other.layout) :
    page.isOpen = other.isOpen := by
  obtain ⟨_, _, dedicated_eq, exhausted_eq⟩ := layout_eq_iff.mp same
  rw [isOpen, isOpen, dedicated_eq, exhausted_eq]

/-- A valid image is painted wherever it gets a place. -/
theorem Valid.commit_of_place {page : Page} (valid : page.Valid) {image : Image}
    (validated : image.validate = .ok ()) {placement : Placement} {packing : Packing}
    (placed : page.packing.place page.border image.size = (.ok (.placed placement), packing)) :
    ∃ texels, page.commit image placement packing =
      (.ok placement, { page with packing, texels, dirty := true }) := by
  have answered := valid.insert_cases image
  simp only [insert, validated, placed, commit] at answered ⊢
  split at answered
  · exact ⟨_, rfl⟩
  · rcases answered with ⟨_, _, result, _⟩ | ⟨_, _, result, _⟩ <;> cases result

/-- Where an image goes is not for its texels to say, nor for those of the page. -/
theorem insert_alike {page other : Page} (valid : page.Valid) (other_valid : other.Valid)
    (same : page.layout = other.layout) {image image' : Image} (alike : image.Alike image') :
    ∃ outcome next next', page.insert image = (outcome, next) ∧ other.insert image' = (outcome, next') ∧
      next.layout = next'.layout := by
  obtain ⟨packing_eq, border_eq, dedicated_eq, exhausted_eq⟩ := layout_eq_iff.mp same
  have place_eq : page.packing.place page.border image.size =
      other.packing.place other.border image'.size := by
    rw [packing_eq, border_eq, alike.size_eq]
  cases validated : image.validate with
  | error error =>
    have validated' := alike.validate_eq.symm.trans validated
    simp only [insert, validated, validated']
    exact ⟨_, _, _, rfl, rfl, same⟩
  | ok done =>
    have validated' := alike.validate_eq.symm.trans validated
    simp only [insert, validated, validated', place_eq]
    rcases placed : other.packing.place other.border image'.size with ⟨fault | response, packing⟩
    · exact ⟨_, _, _, rfl, rfl, layout_eq_iff.mpr ⟨rfl, border_eq, dedicated_eq, exhausted_eq⟩⟩
    · cases response with
      | oversized =>
        exact ⟨_, _, _, rfl, rfl, layout_eq_iff.mpr ⟨rfl, border_eq, dedicated_eq, exhausted_eq⟩⟩
      | noRoom full => exact ⟨_, _, _, rfl, rfl, layout_eq_iff.mpr ⟨rfl, border_eq, dedicated_eq, rfl⟩⟩
      | placed placement =>
        obtain ⟨texels, painted⟩ := valid.commit_of_place validated (place_eq.trans placed)
        obtain ⟨texels', painted'⟩ := other_valid.commit_of_place validated' placed
        exact ⟨_, _, _, painted, painted', layout_eq_iff.mpr ⟨rfl, border_eq, dedicated_eq, exhausted_eq⟩⟩

theorem remove_alike {page other : Page} (same : page.layout = other.layout) (row : Nat) (span : Span) :
    ∃ outcome next next', page.remove row span = (outcome, next) ∧
      other.remove row span = (outcome, next') ∧ next.layout = next'.layout := by
  obtain ⟨packing_eq, border_eq, dedicated_eq, exhausted_eq⟩ := layout_eq_iff.mp same
  simp only [remove, packing_eq]
  rcases other.packing.release row span with ⟨fault | done, packing⟩
  · exact ⟨_, _, _, rfl, rfl, layout_eq_iff.mpr ⟨rfl, border_eq, dedicated_eq, exhausted_eq⟩⟩
  · exact ⟨_, _, _, rfl, rfl, layout_eq_iff.mpr ⟨rfl, border_eq, dedicated_eq, rfl⟩⟩

theorem flush_layout (page : Page) (index : Nat) : (page.flush index).2.2.layout = page.layout := by
  simp only [flush]
  split <;> rfl

theorem dropBitmap_layout (page : Page) (index : Nat) :
    (page.dropBitmap index).2.layout = page.layout := by
  simp only [dropBitmap]
  split <;> rfl

end Page

theorem insertFirst_alike {image image' : Image} (alike : image.Alike image') (start : Nat)
    {pages others : List Page} (valid : ∀ page ∈ pages, page.Valid)
    (others_valid : ∀ page ∈ others, page.Valid)
    (same : pages.map Page.layout = others.map Page.layout) :
    ∃ found passed passed', insertFirst Page.isOpen image start pages = (found, passed) ∧
      insertFirst Page.isOpen image' start others = (found, passed') ∧
      passed.map Page.layout = passed'.map Page.layout := by
  induction pages generalizing others start with
  | nil =>
    obtain rfl := List.map_eq_nil_iff.mp same.symm
    exact ⟨_, _, _, rfl, rfl, rfl⟩
  | cons page pages ih =>
    cases others with
    | nil => cases same
    | cons other others =>
      obtain ⟨page_valid, pages_valid⟩ := List.forall_mem_cons.mp valid
      obtain ⟨other_valid, others_valid⟩ := List.forall_mem_cons.mp others_valid
      obtain ⟨first_same, rest_same⟩ := List.cons.inj same
      obtain ⟨found, passed, passed', searched, searched', passed_same⟩ :=
        ih (start + 1) pages_valid others_valid rest_same
      simp only [insertFirst, Page.isOpen_eq_of_layout_eq first_same, searched, searched']
      by_cases opened : other.isOpen = true
      · obtain ⟨outcome, next, next', result, result', next_same⟩ :=
          Page.insert_alike page_valid other_valid first_same alike
        have here_same := List.cons_eq_cons.mpr ⟨next_same, rest_same⟩
        rw [if_pos opened, if_pos opened, result, result']
        cases outcome with
        | ok placement => exact ⟨_, _, _, rfl, rfl, here_same⟩
        | error failure =>
          cases failure with
          | fault fault => exact ⟨_, _, _, rfl, rfl, here_same⟩
          | rejected error =>
            cases error with
            | outOfSpace =>
              exact ⟨_, _, _, rfl, rfl, List.cons_eq_cons.mpr ⟨next_same, passed_same⟩⟩
            | pageLimitReached | invalidArgument | invalidSettings =>
              exact ⟨_, _, _, rfl, rfl, here_same⟩
      · rw [if_neg opened, if_neg opened]
        exact ⟨_, _, _, rfl, rfl, List.cons_eq_cons.mpr ⟨first_same, passed_same⟩⟩

/-! ## Atlases -/

namespace Atlas

structure Layout where
  settings : Settings
  pages : List Page.Layout
  fragments : Table FragmentId Fragment
  registry : Option LabelRegistry

def layout (atlas : Atlas) : Layout :=
  ⟨atlas.settings, atlas.pages.map Page.layout, atlas.fragments, atlas.registry⟩

theorem layout_eq_iff {atlas other : Atlas} : atlas.layout = other.layout ↔
    atlas.settings = other.settings ∧ atlas.pages.map Page.layout = other.pages.map Page.layout ∧
      atlas.fragments = other.fragments ∧ atlas.registry = other.registry := by
  simp only [layout, Layout.mk.injEq]

theorem pageCount_eq_of_layout_eq {atlas other : Atlas} (same : atlas.layout = other.layout) :
    atlas.pageCount = other.pageCount := by
  have lengths := congrArg List.length (layout_eq_iff.mp same).2.1
  rw [List.length_map, List.length_map] at lengths
  exact lengths

/-- The areas are those of the packings. -/
theorem utilization_eq_of_layout_eq {atlas other : Atlas} (same : atlas.layout = other.layout) :
    atlas.utilization = other.utilization := by
  have pages_same := (layout_eq_iff.mp same).2.1
  have of_layouts : ∀ (step : Nat → Page.Layout → Except Fault Nat),
      atlas.pages.foldlM (fun area page => step area page.layout) 0 =
        other.pages.foldlM (fun area page => step area page.layout) 0 := by
    intro step
    rw [← List.foldlM_map, pages_same, List.foldlM_map]
  have total := of_layouts fun area layout => position (area + layout.packing.size.area)
  have used := of_layouts fun area layout => do position (area + (← layout.packing.usedArea))
  simp only [Page.layout] at total used
  simp only [utilization, Page.size, Page.usedArea, total, used]

end Atlas

/-- The same outcome and journal, and atlases with the same layout. -/
structure Reply.Alike {α : Type} (reply other : Reply α) : Prop where
  outcome_eq : reply.outcome = other.outcome
  journal_eq : reply.journal = other.journal
  layout_eq : reply.atlas.layout = other.atlas.layout

theorem Reply.Alike.map {α β : Type} {reply other : Reply α} (alike : reply.Alike other) (f : α → β) :
    (reply.map f).Alike (other.map f) :=
  ⟨congrArg (Except.map f) alike.outcome_eq, alike.journal_eq, alike.layout_eq⟩

namespace Atlas

/-! ## Creating a fragment -/

theorem pageSizeFor_alike {image image' : Image} (alike : image.Alike image') (border : Nat)
    (floor : Size) : pageSizeFor image border floor = pageSizeFor image' border floor := by
  rw [pageSizeFor, pageSizeFor, alike.size_eq]

/-- The place that was found is bound to the id. -/
def bound (id : FragmentId) : Reply (Nat × Placement) → Reply Fragment
  | ⟨.error failure, journal, transfers, atlas⟩ => ⟨.error failure, journal, transfers, atlas⟩
  | ⟨.ok (page, placement), journal, transfers, atlas⟩ =>
    { outcome := .ok (placement.fragment id page)
      journal := journal ++ [.placed id page placement.rectangle]
      transfers
      atlas := { atlas with
        fragments := atlas.fragments.insert id (placement.fragment id page) } }

theorem create_eq_bound {eligible : Page → Bool} {atlas : Atlas} {image : Image} (id : FragmentId)
    (allocation : Allocation) (validated : image.validate = .ok ()) :
    atlas.create eligible id image allocation = bound id (match allocation with
      | .shared => atlas.insertShared eligible image
      | .dedicated minimum => atlas.insertDedicated image minimum) := by
  simp only [create, validated]
  rfl

theorem bound_alike {reply other : Reply (Nat × Placement)} (alike : reply.Alike other)
    (id : FragmentId) : (bound id reply).Alike (bound id other) := by
  obtain ⟨outcome, journal, transfers, next⟩ := reply
  obtain ⟨outcome', journal', transfers', next'⟩ := other
  obtain ⟨outcome_eq, journal_eq, next_same⟩ := alike
  obtain rfl : outcome = outcome' := outcome_eq
  obtain rfl : journal = journal' := journal_eq
  cases outcome with
  | error failure => exact ⟨rfl, rfl, next_same⟩
  | ok place =>
    obtain ⟨settings_eq, pages_same, fragments_eq, registry_eq⟩ := layout_eq_iff.mp next_same
    refine ⟨rfl, rfl, layout_eq_iff.mpr ⟨settings_eq, pages_same, ?_, registry_eq⟩⟩
    exact congrArg (fun fragments : Table FragmentId Fragment => fragments.insert id _) fragments_eq

section Creating

variable {atlas other : Atlas} {image image' : Image} (same : atlas.layout = other.layout)
  (alike : image.Alike image')

include same alike

theorem openPage_alike (size : Size) (dedicated : Bool) :
    (atlas.openPage size dedicated image).Alike (other.openPage size dedicated image') := by
  obtain ⟨settings_eq, pages_same, fragments_eq, registry_eq⟩ := layout_eq_iff.mp same
  have pageCount_eq := pageCount_eq_of_layout_eq same
  have usedUp_eq : atlas.pagesUsedUp = other.pagesUsedUp := by
    rw [pagesUsedUp, pagesUsedUp, settings_eq, pageCount_eq]
  simp only [openPage, settings_eq, pageCount_eq, usedUp_eq, alike.size_eq]
  by_cases usedUp : other.pagesUsedUp = true
  · rw [if_pos usedUp, if_pos usedUp]
    exact ⟨rfl, rfl, same⟩
  rw [if_neg usedUp, if_neg usedUp]
  cases blanked : Page.blank size other.settings.borderWidth dedicated with
  | error error => exact ⟨rfl, rfl, same⟩
  | ok page =>
    have valid := (Page.isBlank_of_blank blanked).valid (borderWidth_small other.settings)
    obtain ⟨outcome, next, next', result, result', next_same⟩ :=
      Page.insert_alike valid valid rfl alike
    simp only [result, result']
    cases outcome with
    | error failure => exact ⟨rfl, rfl, same⟩
    | ok placement =>
      refine ⟨rfl, rfl, layout_eq_iff.mpr ⟨rfl, ?_, fragments_eq, registry_eq⟩⟩
      dsimp only
      rw [List.map_append, List.map_append, pages_same, List.map_singleton, List.map_singleton,
        next_same]

theorem insertDedicated_alike (minimum : Size) :
    (atlas.insertDedicated image minimum).Alike (other.insertDedicated image' minimum) := by
  have settings_eq := (layout_eq_iff.mp same).1
  simp only [insertDedicated, settings_eq, pageSizeFor_alike alike]
  split
  · exact ⟨rfl, rfl, same⟩
  · exact openPage_alike same alike _ true

variable (valid : ∀ page ∈ atlas.pages, page.Valid) (other_valid : ∀ page ∈ other.pages, page.Valid)

include valid other_valid

theorem insertShared_alike :
    (atlas.insertShared Page.isOpen image).Alike (other.insertShared Page.isOpen image') := by
  obtain ⟨settings, pages, fragments, registry⟩ := atlas
  obtain ⟨settings', pages', fragments', registry'⟩ := other
  obtain ⟨settings_eq, pages_same, fragments_eq, registry_eq⟩ := layout_eq_iff.mp same
  obtain ⟨found, passed, passed', searched, searched', searched_same⟩ :=
    insertFirst_alike alike 0 valid other_valid pages_same
  obtain rfl : settings = settings' := settings_eq
  have passed_same : layout ⟨settings, passed, fragments, registry⟩ =
      layout ⟨settings, passed', fragments', registry'⟩ :=
    layout_eq_iff.mpr ⟨rfl, searched_same, fragments_eq, registry_eq⟩
  dsimp only at searched searched'
  simp only [insertShared, searched, searched']
  rcases found with failure | place | place
  · exact ⟨rfl, rfl, passed_same⟩
  · simp only [pageSizeFor_alike alike]
    split
    · exact ⟨rfl, rfl, passed_same⟩
    · exact openPage_alike passed_same alike _ false
  · exact ⟨rfl, rfl, passed_same⟩

theorem create_alike (id : FragmentId) (allocation : Allocation) :
    (atlas.create Page.isOpen id image allocation).Alike
      (other.create Page.isOpen id image' allocation) := by
  cases validated : image.validate with
  | error error =>
    simp only [create, validated, alike.validate_eq.symm.trans validated]
    exact ⟨rfl, rfl, same⟩
  | ok done =>
    rw [create_eq_bound _ _ validated, create_eq_bound _ _ (alike.validate_eq.symm.trans validated)]
    cases allocation with
    | shared => exact bound_alike (insertShared_alike same alike valid other_valid) id
    | dedicated minimum => exact bound_alike (insertDedicated_alike same alike minimum) id

theorem getOrCreateAmong_alike (id : FragmentId) (allocation : Allocation) :
    (atlas.getOrCreateAmong Page.isOpen id image allocation).Alike
      (other.getOrCreateAmong Page.isOpen id image' allocation) := by
  have get?_eq : atlas.get? id = other.get? id := by
    rw [get?, get?, (layout_eq_iff.mp same).2.2.1]
  simp only [getOrCreateAmong, get?_eq]
  split
  · exact ⟨rfl, rfl, same⟩
  · exact create_alike same alike valid other_valid id allocation

theorem getOrCreateNamedAmong_alike (label : String) (allocation : Allocation) :
    (atlas.getOrCreateNamedAmong Page.isOpen label image allocation).Alike
      (other.getOrCreateNamedAmong Page.isOpen label image' allocation) := by
  obtain ⟨settings_eq, pages_same, fragments_eq, registry_eq⟩ := layout_eq_iff.mp same
  simp only [getOrCreateNamedAmong, registry_eq]
  split
  · exact getOrCreateAmong_alike same alike valid other_valid _ allocation
  have registered (registry : Option LabelRegistry) :
      layout { atlas with registry } = layout { other with registry } :=
    layout_eq_iff.mpr ⟨settings_eq, pages_same, fragments_eq, rfl⟩
  split
  · exact ⟨rfl, rfl, registered _⟩
  · rename_i registry _
    exact getOrCreateAmong_alike (registered (some registry)) alike valid other_valid _ allocation

end Creating

/-! ## Other operations -/

theorem free_alike {atlas other : Atlas} (same : atlas.layout = other.layout) (id : FragmentId) :
    (atlas.free id).Alike (other.free id) := by
  obtain ⟨settings_eq, pages_same, fragments_eq, registry_eq⟩ := layout_eq_iff.mp same
  have get?_eq : atlas.get? id = other.get? id := by rw [get?, get?, fragments_eq]
  simp only [free, get?_eq]
  cases other.get? id with
  | none => exact ⟨rfl, rfl, same⟩
  | some fragment =>
    have erased_eq : atlas.fragments.erase id = other.fragments.erase id := by rw [fragments_eq]
    have lookup := congrArg (·[fragment.page]?) pages_same
    simp only [List.getElem?_map] at lookup
    dsimp only [page?]
    generalize atlas.pages[fragment.page]? = found at lookup ⊢
    generalize other.pages[fragment.page]? = found' at lookup ⊢
    cases found with
    | none =>
      obtain rfl : found' = none := Option.map_eq_none_iff.mp lookup.symm
      exact ⟨rfl, rfl, layout_eq_iff.mpr ⟨settings_eq, pages_same, erased_eq, registry_eq⟩⟩
    | some page =>
      obtain ⟨page', rfl, page_same⟩ := Option.map_eq_some_iff.mp lookup.symm
      obtain ⟨outcome, next, next', removed, removed', next_same⟩ :=
        Page.remove_alike page_same.symm fragment.row fragment.span
      have set_same : (atlas.pages.set fragment.page next).map Page.layout =
          (other.pages.set fragment.page next').map Page.layout := by
        rw [List.map_set, List.map_set, pages_same, next_same]
      simp only [removed, removed']
      cases outcome <;>
        exact ⟨rfl, rfl, layout_eq_iff.mpr ⟨settings_eq, set_same, erased_eq, registry_eq⟩⟩

theorem clear_alike {atlas other : Atlas} (same : atlas.layout = other.layout) :
    atlas.clear.Alike other.clear := by
  obtain ⟨settings_eq, _, fragments_eq, registry_eq⟩ := layout_eq_iff.mp same
  refine ⟨rfl, ?_, layout_eq_iff.mpr ⟨settings_eq, rfl, rfl, registry_eq⟩⟩
  simp only [clear, size, fragments_eq, pageCount_eq_of_layout_eq same]

theorem flush_layout (atlas : Atlas) : atlas.flush.atlas.layout = atlas.layout := by
  rw [flush_eq]
  exact layout_eq_iff.mpr ⟨rfl, transferAll_map Page.flush_layout 0 atlas.pages, rfl, rfl⟩

theorem dropBitmaps_layout (atlas : Atlas) : atlas.dropBitmaps.atlas.layout = atlas.layout :=
  layout_eq_iff.mpr ⟨rfl, transferAll_map Page.dropBitmap_layout 0 atlas.pages, rfl, rfl⟩

end Atlas
end TextureAtlas
