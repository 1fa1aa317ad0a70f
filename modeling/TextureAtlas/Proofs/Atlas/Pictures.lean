import TextureAtlas.Proofs.Atlas.Separation

/-! # Fragments keep their pictures

`Chronicle.Faithful`: each fragment shows the image it was created from, continued into its border.
Painting changes no texel outside the border of the new fragment, and there no other fragment has its
own; freeing changes no texel at all. So no operation that follows can spoil a fragment. -/
set_option autoImplicit false

namespace TextureAtlas

/-- The image is to be seen at the frame and in the border around it. -/
structure Page.Shows (page : Page) (image : Image) (frame : Rectangle) : Prop where
  image_valid : image.Valid
  size_eq : frame.size = image.size
  texels_eq : ∀ x y, x < page.size.width → frame.Surrounds page.border x y →
    page.texels[y * page.size.width + x]? = image.nearest? frame x y

namespace Page.Shows

variable {page other : Page} {image : Image} {frame : Rectangle}

/-- The texels of the frame are all that matters. -/
theorem carry (shown : page.Shows image frame) (size_eq : other.size = page.size)
    (border_eq : other.border = page.border)
    (same : ∀ x y, x < page.size.width → frame.Surrounds page.border x y →
      other.texels[y * page.size.width + x]? = page.texels[y * page.size.width + x]?) :
    other.Shows image frame where
  image_valid := shown.image_valid
  size_eq := shown.size_eq
  texels_eq := by
    intro x y inLine here
    rw [size_eq] at inLine ⊢
    rw [border_eq] at here
    rw [same x y inLine here]
    exact shown.texels_eq x y inLine here

theorem of_unmarked_eq (shown : page.Shows image frame) (same : other.unmarked = page.unmarked) :
    other.Shows image frame := by
  obtain ⟨packing_eq, border_eq, _, texels_eq⟩ := Page.unmarked_eq_iff.mp same
  apply shown.carry (congrArg Packing.size packing_eq) border_eq
  intro x y _ _
  rw [texels_eq]

theorem of_removes (shown : page.Shows image frame) {row : Nat} {span : Span}
    (removes : page.Removes row span other) : other.Shows image frame := by
  apply shown.carry removes.releases.size_eq removes.border_eq
  intro x y _ _
  rw [removes.texels_eq]

/-- Another image is painted outside the frame and its border. -/
theorem of_inserts (shown : page.Shows image frame) {image' : Image} {placement : Placement}
    (inserts : page.Inserts image' placement other)
    (elsewhere : ∀ x y, frame.Surrounds page.border x y →
      ¬ placement.rectangle.Surrounds page.border x y) : other.Shows image frame := by
  apply shown.carry inserts.places.size_eq inserts.border_eq
  intro x y inLine here
  exact inserts.depicts.outside x y inLine (elsewhere x y here)

theorem inserted {placement : Placement} (inserts : page.Inserts image placement other) :
    other.Shows image placement.rectangle where
  image_valid := inserts.image_valid
  size_eq := by
    obtain ⟨row, _, _, _, seat_eq⟩ := inserts.places.row
    rw [seat_eq]
    rfl
  texels_eq := by
    intro x y inLine here
    rw [size, inserts.places.size_eq] at inLine ⊢
    rw [inserts.border_eq] at here
    exact inserts.depicts.inside x y inLine here

end Page.Shows

namespace Chronicle

structure Faithful (chronicle : Chronicle) : Prop where
  sound : chronicle.atlas.Sound
  shown : ∀ (id : FragmentId) (fragment : Fragment), chronicle.atlas.get? id = some fragment →
    ∃ image page, chronicle.source id = some image ∧
      chronicle.atlas.page? fragment.page = some page ∧ page.Shows image fragment.rectangle

namespace Faithful

variable {atlas : Atlas} {source : FragmentId → Option Image}

theorem placed (faithful : Faithful ⟨atlas, source⟩) {id : FragmentId} {image : Image} {index : Nat}
    {page next : Page} {placement : Placement} (absent : atlas.get? id = none)
    (found : atlas.pages[index]? = some page) (inserts : page.Inserts image placement next) :
    Faithful ⟨{ atlas with
        pages := atlas.pages.set index next
        fragments := atlas.fragments.insert id (placement.fragment id index) },
      Function.update source id (some image)⟩ := by
  have sound := faithful.sound.placed absent found inserts
  have inside := (List.getElem?_eq_some_iff.mp found).1
  have border_eq := faithful.sound.page_border page (List.mem_of_getElem? found)
  refine ⟨sound, ?_⟩
  intro id' fragment found'
  by_cases same : id' = id
  · subst same
    rw [Atlas.get?, Table.get?_insert_self] at found'
    cases found'
    exact ⟨image, next, Function.update_self .., List.getElem?_set_self inside, .inserted inserts⟩
  · have before := found'
    rw [Atlas.get?, Table.get?_insert_of_ne _ _ same] at before
    obtain ⟨image', page', source_eq, page_found, shown⟩ := faithful.shown id' fragment before
    have kept : Function.update source id (some image) id' = some image' :=
      (Function.update_of_ne same _ _).trans source_eq
    refine ⟨image', ?_⟩
    by_cases same_page : index = fragment.page
    · subst same_page
      cases found.symm.trans page_found
      refine ⟨next, kept, List.getElem?_set_self inside, shown.of_inserts inserts ?_⟩
      intro x y here
      have new_found := Table.get?_insert_self atlas.fragments id (placement.fragment id fragment.page)
      rw [border_eq] at here ⊢
      exact sound.not_surrounds ⟨id', found'⟩ ⟨id, new_found⟩
        (sound.ne_of_ids found' new_found same) rfl here
    · exact ⟨page', kept, (List.getElem?_set_ne same_page).trans page_found, shown⟩

theorem freed (faithful : Faithful ⟨atlas, source⟩) {id : FragmentId} {fragment : Fragment}
    {page next : Page} (found_id : atlas.get? id = some fragment)
    (found : atlas.pages[fragment.page]? = some page)
    (removes : page.Removes fragment.row fragment.span next) :
    Faithful ⟨{ atlas with
        pages := atlas.pages.set fragment.page next
        fragments := atlas.fragments.erase id }, source⟩ := by
  have inside := (List.getElem?_eq_some_iff.mp found).1
  refine ⟨faithful.sound.freed found_id found removes, ?_⟩
  intro id' other found'
  have differs : id' ≠ id := by
    rintro rfl
    rw [Atlas.get?, Table.get?_erase_self] at found'
    cases found'
  rw [Atlas.get?, Table.get?_erase_of_ne _ differs] at found'
  obtain ⟨image, page', source_eq, page_found, shown⟩ := faithful.shown id' other found'
  refine ⟨image, ?_⟩
  by_cases same_page : fragment.page = other.page
  · rw [same_page] at found inside
    cases found.symm.trans page_found
    refine ⟨next, source_eq, ?_, shown.of_removes removes⟩
    rw [same_page]
    exact List.getElem?_set_self inside
  · exact ⟨page', source_eq, (List.getElem?_set_ne same_page).trans page_found, shown⟩

theorem change {chronicle next : Chronicle} (faithful : chronicle.Faithful)
    (change : Change chronicle next) : next.Faithful := by
  have sound := faithful.sound.change change
  cases change with
  | marked border_eq unmarked_eq =>
    refine ⟨sound, ?_⟩
    intro id fragment found
    obtain ⟨image, page, source_eq, page_found, shown⟩ := faithful.shown id fragment found
    obtain ⟨page', page_found', same⟩ := getElem?_of_unmarked_eq unmarked_eq page_found
    exact ⟨image, page', source_eq, page_found', shown.of_unmarked_eq same⟩
  | opened blank =>
    refine ⟨sound, ?_⟩
    intro id fragment found
    obtain ⟨image, page, source_eq, page_found, shown⟩ := faithful.shown id fragment found
    have inside := (List.getElem?_eq_some_iff.mp page_found).1
    exact ⟨image, page, source_eq, (List.getElem?_append_left inside).trans page_found, shown⟩
  | placed absent found inserts => exact faithful.placed absent found inserts
  | freed found_id found removes => exact faithful.freed found_id found removes
  | cleared =>
    refine ⟨sound, ?_⟩
    intro id fragment found
    cases found

theorem start {settings : Settings} {first : Atlas}
    (success : Atlas.ofSettings settings = .ok first) : (Chronicle.start first).Faithful := by
  refine ⟨Atlas.sound_of_ofSettings success, ?_⟩
  rw [Atlas.eq_empty_of_ofSettings success]
  intro id fragment found
  cases found

theorem after {chronicle : Chronicle} (faithful : chronicle.Faithful) (history : List Operation) :
    (chronicle.after history).Faithful :=
  keeps (fun _ held => held.sound.ready) (fun _ _ => Faithful.change) faithful history

/-- The texels of a fragment and its border, read from the page. -/
theorem texels_eq {chronicle : Chronicle} (faithful : chronicle.Faithful) {id : FragmentId}
    {fragment : Fragment} (found : chronicle.atlas.get? id = some fragment) :
    ∃ image page, chronicle.source id = some image ∧
      chronicle.atlas.page? fragment.page = some page ∧ fragment.size = image.size ∧
      ∀ x y, fragment.rectangle.Surrounds chronicle.atlas.settings.borderWidth x y →
        x < page.size.width ∧ y < page.size.height ∧ ∃ texel, page.texel x y = .ok texel ∧
          image.nearest? fragment.rectangle x y = some texel := by
  obtain ⟨image, page, source_eq, page_found, shown⟩ := faithful.shown id fragment found
  refine ⟨image, page, source_eq, page_found, shown.size_eq, ?_⟩
  intro x y here
  have page_valid := faithful.sound.page_valid page (List.mem_of_getElem? page_found)
  have border_eq := faithful.sound.page_border page (List.mem_of_getElem? page_found)
  obtain ⟨page', page_found', left, top, right, bottom⟩ := faithful.sound.grown_within ⟨id, found⟩
  cases page_found.symm.trans page_found'
  have covered := (Rectangle.covers_grow left top x y).mpr here
  have inLine : x < page.size.width := Nat.lt_of_lt_of_le covered.2.1 right
  have inPage : y < page.size.height := Nat.lt_of_lt_of_le covered.2.2.2 bottom
  obtain ⟨texel, texel_eq⟩ := Image.nearest?_isSome shown.image_valid fragment.rectangle x y
  refine ⟨inLine, inPage, texel, page_valid.texel_eq inLine inPage ?_, texel_eq⟩
  rw [← border_eq] at here
  rw [shown.texels_eq x y inLine here, texel_eq]

end Faithful
end Chronicle

namespace Atlas

/-- Whatever was done before, each fragment has the texels of the image it was created from, and its
border those of the nearest texel of that image. -/
theorem fragments_keep_images {settings : Settings} {first : Atlas}
    (success : ofSettings settings = .ok first) (history : List Operation) (id : FragmentId)
    (fragment : Fragment) (found : (first.after history).get? id = some fragment) :
    ∃ image page, ((Chronicle.start first).after history).source id = some image ∧
      (first.after history).page? fragment.page = some page ∧ fragment.size = image.size ∧
      ∀ x y,
        fragment.rectangle.x ≤ x + (first.after history).settings.borderWidth →
        x < fragment.rectangle.x + image.width + (first.after history).settings.borderWidth →
        fragment.rectangle.y ≤ y + (first.after history).settings.borderWidth →
        y < fragment.rectangle.y + image.height + (first.after history).settings.borderWidth →
        x < page.size.width ∧ y < page.size.height ∧ ∃ texel, page.texel x y = .ok texel ∧
          image.texels[min (y - fragment.rectangle.y) (image.height - 1) * image.stride +
            min (x - fragment.rectangle.x) (image.width - 1)]? = some texel := by
  have faithful := (Chronicle.Faithful.start success).after history
  have reached : ((Chronicle.start first).after history).atlas = first.after history :=
    Chronicle.after_atlas _ history
  rw [← reached] at found ⊢
  obtain ⟨image, page, source_eq, page_found, size_eq, texels_eq⟩ := faithful.texels_eq found
  have width_eq : fragment.rectangle.width = image.width := congrArg Size.width size_eq
  have height_eq : fragment.rectangle.height = image.height := congrArg Size.height size_eq
  refine ⟨image, page, source_eq, page_found, size_eq, ?_⟩
  intro x y left right top bottom
  apply texels_eq
  rw [Rectangle.Surrounds, width_eq, height_eq]
  exact ⟨left, right, top, bottom⟩

/-- A corner of the border: the fragment next to it was freed, and its place was taken again. -/
theorem fragments_keep_images_sample :
    sample.get? ⟨2⟩ = some secondSample ∧
      ∃ image page,
        ((Chronicle.start (empty sampleSettings)).after sampleHistory).source ⟨2⟩ = some image ∧
        sample.page? secondSample.page = some page ∧ secondSample.size = image.size ∧
        3 < page.size.width ∧ 0 < page.size.height ∧ ∃ texel, page.texel 3 0 = .ok texel ∧
          image.texels[min (0 - 1) (image.height - 1) * image.stride +
            min (3 - 4) (image.width - 1)]? = some texel := by
  have success : ofSettings sampleSettings = .ok (empty sampleSettings) := rfl
  obtain ⟨image, page, source_eq, page_found, size_eq, texels_eq⟩ :=
    fragments_keep_images success sampleHistory ⟨2⟩ secondSample sample_second
  have width_eq : 2 = image.width := congrArg Size.width size_eq
  have height_eq : 1 = image.height := congrArg Size.height size_eq
  have border_eq : ((empty sampleSettings).after sampleHistory).settings.borderWidth = 1 := by
    decide +kernel
  rw [border_eq, ← width_eq, ← height_eq] at texels_eq
  refine ⟨sample_second, image, page, source_eq, page_found, size_eq, ?_⟩
  rw [← width_eq, ← height_eq]
  exact texels_eq 3 0 (by decide) (by decide) (by decide) (by decide)

end Atlas
end TextureAtlas
