import Mathlib.Data.Set.Function
import TextureAtlas.Proofs.Atlas.Changes

/-! # The table of fragments and the rows

The table says where each fragment is, the rows say which of their spans are used. `Atlas.Sound`: the
two agree, one fragment for each used span, and the rectangle of each fragment is the one its span and
its row give it. Every change keeps this, so it holds after every history. -/
set_option autoImplicit false

namespace TextureAtlas

/-- The page, the row and the span of a fragment. -/
def Fragment.place (fragment : Fragment) : Nat × Nat × Span :=
  (fragment.page, fragment.row, fragment.span)

/-- The used spans of all rows of the pages, each with the index of its page and of its row. -/
def placesOf (pages : List Page) : Set (Nat × Nat × Span) :=
  {place | ∃ page, pages[place.1]? = some page ∧ page.packing.Holds place.2.1 place.2.2}

/-- Every page keeps its index, and its rows their place. -/
def KeepsPages (pages next : List Page) : Prop :=
  ∀ (index : Nat) (page : Page), pages[index]? = some page →
    ∃ page', next[index]? = some page' ∧ page.packing.KeepsRows page'.packing

section Pages

variable {pages next : List Page} {index : Nat} {page page' : Page}

theorem mem_placesOf {row : Nat} {span : Span} : (index, row, span) ∈ placesOf pages ↔
    ∃ page, pages[index]? = some page ∧ page.packing.Holds row span := Iff.rfl

theorem getElem?_of_unmarked_eq (same : next.map Page.unmarked = pages.map Page.unmarked)
    (found : pages[index]? = some page) :
    ∃ page', next[index]? = some page' ∧ page'.unmarked = page.unmarked := by
  have at_index := congrArg (·[index]?) same
  simp only [List.getElem?_map, found, Option.map_some] at at_index
  exact Option.map_eq_some_iff.mp at_index

theorem placesOf_subset_of_unmarked_eq (same : next.map Page.unmarked = pages.map Page.unmarked) :
    placesOf pages ⊆ placesOf next := by
  rintro ⟨index, row, span⟩ ⟨page, found, held⟩
  obtain ⟨page', found', unmarked_eq⟩ := getElem?_of_unmarked_eq same found
  refine ⟨page', found', ?_⟩
  rw [(Page.unmarked_eq_iff.mp unmarked_eq).1]
  exact held

theorem keepsPages_of_unmarked_eq (same : next.map Page.unmarked = pages.map Page.unmarked) :
    KeepsPages pages next := by
  intro index page found
  obtain ⟨page', found', unmarked_eq⟩ := getElem?_of_unmarked_eq same found
  refine ⟨page', found', ?_⟩
  rw [(Page.unmarked_eq_iff.mp unmarked_eq).1]
  exact .refl page.packing

theorem placesOf_append (empty : ∀ row span, ¬ page.packing.Holds row span) :
    placesOf (pages ++ [page]) = placesOf pages := by
  ext ⟨index, row, span⟩
  constructor
  · rintro ⟨other, found, held⟩
    rw [List.getElem?_append] at found
    split at found
    · exact ⟨other, found, held⟩
    · have := List.mem_of_getElem? found
      cases List.mem_singleton.mp this
      exact absurd held (empty row span)
  · rintro ⟨other, found, held⟩
    have inside := (List.getElem?_eq_some_iff.mp found).1
    exact ⟨other, (List.getElem?_append_left inside).trans found, held⟩

theorem keepsPages_append : KeepsPages pages (pages ++ [page]) := by
  intro index other found
  have inside := (List.getElem?_eq_some_iff.mp found).1
  exact ⟨other, (List.getElem?_append_left inside).trans found, .refl _⟩

theorem mem_placesOf_set (found : pages[index]? = some page) (other row : Nat) (span : Span) :
    (other, row, span) ∈ placesOf (pages.set index page') ↔
      if other = index then page'.packing.Holds row span else (other, row, span) ∈ placesOf pages := by
  have inside := (List.getElem?_eq_some_iff.mp found).1
  simp only [mem_placesOf]
  by_cases same : other = index
  · subst same
    rw [if_pos rfl, List.getElem?_set_self inside]
    simp
  · rw [if_neg same, List.getElem?_set_ne (Ne.symm same)]

/-- A page that holds one place more in the stead of another page. -/
theorem placesOf_set (found : pages[index]? = some page) {row : Nat} {span : Span}
    (holds_iff : ∀ row' span', page'.packing.Holds row' span' ↔
      page.packing.Holds row' span' ∨ row' = row ∧ span' = span) :
    placesOf (pages.set index page') = insert (index, row, span) (placesOf pages) := by
  ext ⟨other, row', span'⟩
  rw [mem_placesOf_set found, Set.mem_insert_iff, mem_placesOf, holds_iff]
  by_cases same : other = index
  · subst same
    simp only [if_true, found, Option.some.injEq, exists_eq_left', Prod.mk.injEq, true_and]
    exact or_comm
  · rw [if_neg same]
    simp only [Prod.mk.injEq, same, false_and, false_or]

/-- The same for a page that holds one place less: taking it back is the other way round. -/
theorem placesOf_eq_of_regained (found : pages[index]? = some page) {row : Nat} {span : Span}
    (regained : ∀ row' span', page.packing.Holds row' span' ↔
      page'.packing.Holds row' span' ∨ row' = row ∧ span' = span) :
    placesOf pages = insert (index, row, span) (placesOf (pages.set index page')) := by
  obtain ⟨inside, rfl⟩ := List.getElem?_eq_some_iff.mp found
  have again := @placesOf_set (pages.set index page') index page' pages[index]
    (List.getElem?_set_self inside) row span regained
  rw [List.set_set, List.set_getElem_self] at again
  exact again

theorem keepsPages_set (found : pages[index]? = some page)
    (keeps : page.packing.KeepsRows page'.packing) : KeepsPages pages (pages.set index page') := by
  have inside := (List.getElem?_eq_some_iff.mp found).1
  intro other kept found'
  by_cases same : index = other
  · subst same
    cases found.symm.trans found'
    exact ⟨page', List.getElem?_set_self inside, keeps⟩
  · exact ⟨kept, (List.getElem?_set_ne same).trans found', .refl _⟩

end Pages

namespace Atlas

/-- The fragments in the table. -/
def live (atlas : Atlas) : Set Fragment := {fragment | ∃ id, atlas.get? id = some fragment}

/-- The used spans of the atlas. -/
def places (atlas : Atlas) : Set (Nat × Nat × Span) := placesOf atlas.pages

/-- The rectangle of the fragment is the one that its span and its row give it. -/
structure Seated (atlas : Atlas) (fragment : Fragment) (page : Page) (row : Row) : Prop where
  page_found : atlas.page? fragment.page = some page
  row_found : page.rows[fragment.row]? = some row
  x_eq : fragment.rectangle.x = fragment.span.x + atlas.settings.borderWidth
  y_eq : fragment.rectangle.y = row.y + atlas.settings.borderWidth
  width_eq : fragment.span.width = fragment.rectangle.width + 2 * atlas.settings.borderWidth
  height_le : fragment.rectangle.height + 2 * atlas.settings.borderWidth ≤ row.height

structure Sound (atlas : Atlas) : Prop where
  page_valid : ∀ page ∈ atlas.pages, page.Valid
  page_border : ∀ page ∈ atlas.pages, page.border = atlas.settings.borderWidth
  key_eq : ∀ (id : FragmentId) (fragment : Fragment), atlas.get? id = some fragment → fragment.id = id
  seated : ∀ fragment ∈ atlas.live, ∃ page row, atlas.Seated fragment page row
  bijOn : Set.BijOn Fragment.place atlas.live atlas.places

theorem sound_empty (settings : Settings) : (empty settings).Sound where
  page_valid := by simp [empty]
  page_border := by simp [empty]
  key_eq := by
    intro id fragment found
    cases found
  seated := by
    rintro fragment ⟨id, found⟩
    cases found
  bijOn := by
    refine ⟨?_, ?_, ?_⟩
    · rintro fragment ⟨id, found⟩
      cases found
    · rintro fragment ⟨id, found⟩
      cases found
    · rintro place ⟨page, found, _⟩
      cases found

/-- A fragment stays seated while its page and its row keep their places. -/
theorem Seated.carry {atlas next : Atlas} {fragment : Fragment} {page : Page} {row : Row}
    (seated : atlas.Seated fragment page row)
    (border_eq : next.settings.borderWidth = atlas.settings.borderWidth)
    (keeps : KeepsPages atlas.pages next.pages) : ∃ page row, next.Seated fragment page row := by
  obtain ⟨page', page_found, keepsRows⟩ := keeps _ _ seated.page_found
  obtain ⟨row', row_found, y_eq, height_eq⟩ := keepsRows _ _ seated.row_found
  refine ⟨page', row', page_found, row_found, ?_, ?_, ?_, ?_⟩
  · rw [border_eq, seated.x_eq]
  · rw [border_eq, y_eq, seated.y_eq]
  · rw [border_eq, seated.width_eq]
  · rw [border_eq, height_eq]
    exact seated.height_le

theorem borderWidth_congr {settings settings' : Settings} (same : settings'.border = settings.border) :
    settings'.borderWidth = settings.borderWidth := by
  rw [Settings.borderWidth, Settings.borderWidth, same]

namespace Sound

variable {atlas : Atlas}

theorem marked (sound : atlas.Sound) {settings : Settings} {pages : List Page}
    (registry : Option LabelRegistry) (border_eq : settings.border = atlas.settings.border)
    (unmarked_eq : pages.map Page.unmarked = atlas.pages.map Page.unmarked) :
    Sound ⟨settings, pages, atlas.fragments, registry⟩ := by
  have width_eq := borderWidth_congr border_eq
  have places_eq : placesOf pages = placesOf atlas.pages :=
    Set.Subset.antisymm (placesOf_subset_of_unmarked_eq unmarked_eq.symm)
      (placesOf_subset_of_unmarked_eq unmarked_eq)
  have origin : ∀ page ∈ pages, ∃ page' ∈ atlas.pages, page.unmarked = page'.unmarked := by
    intro page member
    obtain ⟨index, found⟩ := List.mem_iff_getElem?.mp member
    obtain ⟨page', found', same⟩ := getElem?_of_unmarked_eq unmarked_eq.symm found
    exact ⟨page', List.mem_of_getElem? found', same.symm⟩
  refine ⟨?_, ?_, sound.key_eq, ?_, ?_⟩
  · intro page member
    obtain ⟨page', member', same⟩ := origin page member
    exact (sound.page_valid page' member').of_unmarked_eq same
  · intro page member
    obtain ⟨page', member', same⟩ := origin page member
    rw [(Page.unmarked_eq_iff.mp same).2.1, sound.page_border page' member', width_eq]
  · intro fragment fragment_live
    obtain ⟨page, row, seated⟩ := sound.seated fragment fragment_live
    exact seated.carry width_eq (keepsPages_of_unmarked_eq unmarked_eq)
  · rw [places, places_eq]
    exact sound.bijOn

theorem opened (sound : atlas.Sound) {size : Size} {dedicated : Bool} {page : Page}
    (blank : Page.IsBlank size atlas.settings.borderWidth dedicated page) :
    Sound { atlas with pages := atlas.pages ++ [page] } := by
  have empty : ∀ row span, ¬ page.packing.Holds row span := by
    rw [blank.page_eq]
    exact Packing.not_holds_empty size
  refine ⟨?_, ?_, sound.key_eq, ?_, ?_⟩
  · intro other member
    rcases List.mem_append.mp member with member | member
    · exact sound.page_valid other member
    · cases List.mem_singleton.mp member
      exact blank.valid (borderWidth_small atlas.settings)
  · intro other member
    rcases List.mem_append.mp member with member | member
    · exact sound.page_border other member
    · cases List.mem_singleton.mp member
      rw [blank.page_eq]
  · intro fragment fragment_live
    obtain ⟨page, row, seated⟩ := sound.seated fragment fragment_live
    exact seated.carry rfl keepsPages_append
  · rw [places, placesOf_append empty]
    exact sound.bijOn

/-- What holds of all pages and of a new page still holds of all after the page is replaced. -/
theorem set_pages {holds : Page → Prop} {pages : List Page} {index : Nat} {next : Page}
    (all : ∀ page ∈ pages, holds page) (new : holds next) :
    ∀ page ∈ pages.set index next, holds page := by
  intro page member
  rcases List.mem_or_eq_of_mem_set member with member | rfl
  · exact all page member
  · exact new

theorem live_insert {pages : List Page} {id : FragmentId} {fragment : Fragment}
    (absent : atlas.get? id = none) :
    live { atlas with pages, fragments := atlas.fragments.insert id fragment } =
      insert fragment atlas.live := by
  ext other
  constructor
  · rintro ⟨id', found⟩
    by_cases same : id' = id
    · subst same
      rw [get?, Table.get?_insert_self] at found
      exact Or.inl (Option.some.inj found).symm
    · rw [get?, Table.get?_insert_of_ne _ _ same] at found
      exact Or.inr ⟨id', found⟩
  · rintro (rfl | ⟨id', found⟩)
    · exact ⟨id, Table.get?_insert_self _ _ _⟩
    · have differs : id' ≠ id := by
        rintro rfl
        cases absent.symm.trans found
      exact ⟨id', (Table.get?_insert_of_ne _ _ differs).trans found⟩

theorem live_erase (sound : atlas.Sound) {pages : List Page} {id : FragmentId} {fragment : Fragment}
    (found : atlas.get? id = some fragment) :
    atlas.live = insert fragment (live { atlas with pages, fragments := atlas.fragments.erase id }) ∧
      fragment ∉ live { atlas with pages, fragments := atlas.fragments.erase id } := by
  have kept : ∀ {id' : FragmentId} {other : Fragment},
      (atlas.fragments.erase id).get? id' = some other ↔
        atlas.get? id' = some other ∧ id' ≠ id := by
    intro id' other
    by_cases same : id' = id
    · subst same
      simp
    · rw [Table.get?_erase_of_ne _ same]
      exact (and_iff_left same).symm
  constructor
  · ext other
    constructor
    · rintro ⟨id', found'⟩
      by_cases same : id' = id
      · subst same
        exact Or.inl (Option.some.inj (found'.symm.trans found))
      · exact Or.inr ⟨id', kept.mpr ⟨found', same⟩⟩
    · rintro (rfl | ⟨id', found'⟩)
      · exact ⟨id, found⟩
      · exact ⟨id', (kept.mp found').1⟩
  · rintro ⟨id', found'⟩
    obtain ⟨still, differs⟩ := kept.mp found'
    exact differs ((sound.key_eq id' fragment still).symm.trans (sound.key_eq id fragment found))

/-- The place of an inserted image gives it its rectangle. -/
theorem seated_of_inserts {index : Nat} {id : FragmentId} {image : Image} {page next : Page}
    {placement : Placement} {fragments : Table FragmentId Fragment}
    (found : atlas.pages[index]? = some page) (border_eq : page.border = atlas.settings.borderWidth)
    (inserts : page.Inserts image placement next) :
    ∃ row, Seated { atlas with pages := atlas.pages.set index next, fragments }
      (placement.fragment id index) next row := by
  obtain ⟨row, row_found, _, high, seat_eq⟩ := inserts.places.row
  have width_eq := inserts.places.span_width
  have inside := (List.getElem?_eq_some_iff.mp found).1
  rw [border_eq] at high seat_eq width_eq
  refine ⟨row, List.getElem?_set_self inside, row_found, ?_, ?_, ?_, ?_⟩ <;>
    rw [Placement.fragment, seat_eq]
  · rfl
  · rfl
  · exact width_eq
  · exact high

theorem placed (sound : atlas.Sound) {id : FragmentId} {image : Image} {index : Nat}
    {page next : Page} {placement : Placement} (absent : atlas.get? id = none)
    (found : atlas.pages[index]? = some page) (inserts : page.Inserts image placement next) :
    Sound { atlas with
      pages := atlas.pages.set index next
      fragments := atlas.fragments.insert id (placement.fragment id index) } := by
  have member := List.mem_of_getElem? found
  have page_valid := sound.page_valid page member
  have border_eq := sound.page_border page member
  refine ⟨?_, ?_, ?_, ?_, ?_⟩
  · exact set_pages sound.page_valid (inserts.valid page_valid)
  · exact set_pages sound.page_border (inserts.border_eq.trans border_eq)
  · intro id' fragment found'
    by_cases same : id' = id
    · subst same
      rw [get?, Table.get?_insert_self] at found'
      cases found'
      rfl
    · rw [get?, Table.get?_insert_of_ne _ _ same] at found'
      exact sound.key_eq id' fragment found'
  · intro fragment fragment_live
    rw [live_insert absent] at fragment_live
    rcases fragment_live with rfl | fragment_live
    · exact ⟨next, seated_of_inserts found border_eq inserts⟩
    · obtain ⟨page', row, seated⟩ := sound.seated fragment fragment_live
      exact seated.carry rfl (keepsPages_set found inserts.places.keepsRows)
  · have places_eq : placesOf (atlas.pages.set index next) =
        insert (placement.fragment id index).place atlas.places :=
      placesOf_set found inserts.places.holds_iff
    have fresh : (placement.fragment id index).place ∉ atlas.places := by
      rintro ⟨page', found', held⟩
      cases found.symm.trans found'
      exact inserts.places.fresh page_valid.packing_valid held
    rw [live_insert absent, places, places_eq]
    exact sound.bijOn.insert fresh

theorem freed (sound : atlas.Sound) {id : FragmentId} {fragment : Fragment} {page next : Page}
    (found_id : atlas.get? id = some fragment) (found : atlas.pages[fragment.page]? = some page)
    (removes : page.Removes fragment.row fragment.span next) :
    Sound { atlas with
      pages := atlas.pages.set fragment.page next
      fragments := atlas.fragments.erase id } := by
  have member := List.mem_of_getElem? found
  have releases := removes.releases
  obtain ⟨live_eq, dead⟩ := @live_erase atlas sound (atlas.pages.set fragment.page next) _ _ found_id
  refine ⟨?_, ?_, ?_, ?_, ?_⟩
  · exact set_pages sound.page_valid (removes.valid (sound.page_valid page member))
  · exact set_pages sound.page_border (removes.border_eq.trans (sound.page_border page member))
  · intro id' other found'
    by_cases same : id' = id
    · subst same
      rw [get?, Table.get?_erase_self] at found'
      cases found'
    · rw [get?, Table.get?_erase_of_ne _ same] at found'
      exact sound.key_eq id' other found'
  · intro other other_live
    have still : other ∈ atlas.live := live_eq.symm ▸ Or.inr other_live
    obtain ⟨page', row, seated⟩ := sound.seated other still
    exact seated.carry rfl (keepsPages_set found releases.keepsRows)
  · have unused : fragment.place ∉ placesOf (atlas.pages.set fragment.page next) := by
      rw [Fragment.place, mem_placesOf_set found, if_pos rfl, releases.holds_iff]
      exact fun held => held.2 ⟨rfl, rfl⟩
    have places_eq : atlas.places =
        insert fragment.place (placesOf (atlas.pages.set fragment.page next)) :=
      placesOf_eq_of_regained found releases.regained
    have both := sound.bijOn
    rw [live_eq, places_eq] at both
    exact (Set.BijOn.insert_iff dead unused).mp both

theorem cleared (atlas : Atlas) : Sound { atlas with pages := [], fragments := Table.empty } :=
  (sound_empty atlas.settings).marked atlas.registry rfl rfl

theorem change {chronicle next : Chronicle} (sound : chronicle.atlas.Sound)
    (change : Change chronicle next) : next.atlas.Sound := by
  cases change with
  | marked border_eq unmarked_eq => exact sound.marked _ border_eq unmarked_eq
  | opened blank => exact sound.opened blank
  | placed absent found inserts => exact sound.placed absent found inserts
  | freed found_id found removes => exact sound.freed found_id found removes
  | cleared => exact cleared _

theorem ne_of_ids (sound : atlas.Sound) {id id' : FragmentId} {fragment other : Fragment}
    (found : atlas.get? id = some fragment) (found' : atlas.get? id' = some other)
    (ids_differ : id ≠ id') : fragment ≠ other := by
  rintro rfl
  exact ids_differ ((sound.key_eq id fragment found).symm.trans (sound.key_eq id' fragment found'))

/-- The row of a fragment uses its span. -/
theorem uses_of_live (sound : atlas.Sound) {fragment : Fragment}
    (fragment_live : fragment ∈ atlas.live) :
    ∃ page row, atlas.Seated fragment page row ∧ page ∈ atlas.pages ∧
      fragment.span ∈ row.space.used := by
  obtain ⟨page, row, seated⟩ := sound.seated fragment fragment_live
  obtain ⟨page', found, row', row_found, used⟩ := sound.bijOn.mapsTo fragment_live
  cases found.symm.trans seated.page_found
  cases row_found.symm.trans seated.row_found
  exact ⟨page, row, seated, List.mem_of_getElem? found, used⟩

/-- So the page of each fragment can give its span back. -/
theorem ready (sound : atlas.Sound) : atlas.Ready where
  page_valid := sound.page_valid
  held := fun id _ found => sound.bijOn.mapsTo ⟨id, found⟩

end Sound

theorem sound_of_ofSettings {settings : Settings} {first : Atlas}
    (success : ofSettings settings = .ok first) : first.Sound := by
  rw [eq_empty_of_ofSettings success]
  exact sound_empty settings

theorem Reachable.sound {atlas : Atlas} (reachable : atlas.Reachable) : atlas.Sound := by
  obtain ⟨settings, first, history, success, rfl⟩ := reachable
  have start : (Chronicle.start first).atlas.Sound := sound_of_ofSettings success
  have sound := Chronicle.keeps (fun _ => Sound.ready) (fun _ _ => Sound.change) start history
  rw [Chronicle.after_atlas] at sound
  exact sound

/-- Each fragment of the table has a used span of its own, and none is left over; its rectangle lies in
its row, at the start of its span, with the border around it. -/
theorem table_matches_rows {atlas : Atlas} (reachable : atlas.Reachable) :
    Set.BijOn Fragment.place atlas.live atlas.places ∧
      ∀ (id : FragmentId) (fragment : Fragment), atlas.get? id = some fragment →
        fragment.id = id ∧ ∃ page row, atlas.Seated fragment page row := by
  refine ⟨reachable.sound.bijOn, ?_⟩
  intro id fragment found
  exact ⟨reachable.sound.key_eq id fragment found, reachable.sound.seated fragment ⟨id, found⟩⟩

theorem table_matches_rows_sample :
    sample.Reachable ∧ Set.BijOn Fragment.place sample.live sample.places ∧
      sample.get? ⟨2⟩ = some secondSample ∧ secondSample.id = ⟨2⟩ ∧
      ∃ page row, sample.Seated secondSample page row := by
  obtain ⟨bijection, rectangles⟩ := table_matches_rows sample_reachable
  exact ⟨sample_reachable, bijection, sample_second, rectangles ⟨2⟩ secondSample sample_second⟩

end Atlas
end TextureAtlas
