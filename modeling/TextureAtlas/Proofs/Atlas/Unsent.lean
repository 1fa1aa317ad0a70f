import TextureAtlas.Proofs.Atlas.Pages

/-! # Changes that are not sent

Flushing, dropping the bitmaps and clearing are the only operations that tell the renderer anything
(`Operation.sends`). Between them a page drifts from what the renderer knows of it (`Page.Drifts`): its
size stays, and if it is clean afterwards then nothing was painted on it. Pages that join the atlas
are not uploaded yet, and dirty. -/
set_option autoImplicit false

namespace TextureAtlas

/-- What may happen to a page while nothing is sent. -/
structure Page.Drifts (page next : Page) : Prop where
  size_eq : next.size = page.size
  uploaded_eq : next.uploaded = page.uploaded
  clean : next.dirty = false → page.dirty = false ∧ next.texels = page.texels

namespace Page

theorem Drifts.refl (page : Page) : page.Drifts page := ⟨rfl, rfl, fun clean => ⟨clean, rfl⟩⟩

variable {page next : Page}

theorem Refuses.drifts {image : Image} {error : Error} (refuses : page.Refuses image error next) :
    page.Drifts next := by
  cases refuses with
  | invalid | oversized => exact .refl page
  | noRoom => exact ⟨rfl, rfl, fun clean => ⟨clean, rfl⟩⟩

theorem Inserts.drifts {image : Image} {placement : Placement}
    (inserts : page.Inserts image placement next) : page.Drifts next := by
  refine ⟨inserts.places.size_eq, ?_, ?_⟩
  · rw [inserts.next_eq]
  · intro clean
    rw [inserts.next_eq] at clean
    cases clean

theorem Valid.remove_drifts (valid : page.Valid) (row : Nat) (span : Span) :
    page.Drifts (page.remove row span).2 := by
  rcases remove_cases valid.packing_valid row span with
    ⟨fault, result⟩ | ⟨next, result, removes⟩ <;> rw [result]
  · exact .refl page
  · refine ⟨removes.releases.size_eq, ?_, ?_⟩
    · rw [removes.next_eq]
    · intro clean
      rw [removes.next_eq] at clean
      exact ⟨clean, removes.texels_eq⟩

end Page

theorem Passed.drifts {eligible : Page → Bool} {image : Image} {page next : Page}
    (passed : Passed eligible image page next) : page.Drifts next := by
  cases passed with
  | skipped closed => exact .refl page
  | refused opened result refuses => exact refuses.drifts

/-- The renderer knows nothing of the page, and will be told at the next flush. -/
def Page.Unknown (page : Page) : Prop := page.uploaded = false ∧ page.dirty = true

theorem Page.unknown_of_blank {size : Size} {border : Nat} {dedicated : Bool} {page next : Page}
    {image : Image} {placement : Placement} (blank : Page.IsBlank size border dedicated page)
    (inserts : page.Inserts image placement next) : next.Unknown := by
  rw [Unknown, inserts.next_eq, blank.page_eq]
  exact ⟨rfl, rfl⟩

/-- Each page drifts, and those that joined are unknown. -/
def PagesDrift (pages next : List Page) : Prop :=
  ∃ kept joined, next = kept ++ joined ∧ List.Forall₂ Page.Drifts pages kept ∧
    ∀ page ∈ joined, page.Unknown

namespace PagesDrift

variable {pages next : List Page}

theorem of_forall₂ (drift : List.Forall₂ Page.Drifts pages next) : PagesDrift pages next :=
  ⟨next, [], (List.append_nil next).symm, drift, List.forall_mem_nil _⟩

theorem refl (pages : List Page) : PagesDrift pages pages :=
  of_forall₂ (List.forall₂_same.mpr fun page _ => .refl page)

theorem lookup (drift : PagesDrift pages next) (index : Nat) :
    (∃ page page', pages[index]? = some page ∧ next[index]? = some page' ∧ page.Drifts page') ∨
      (pages[index]? = none ∧ ∀ page, next[index]? = some page → page.Unknown) := by
  obtain ⟨kept, joined, rfl, each, unknown⟩ := drift
  have same := each.length_eq
  by_cases inside : index < pages.length
  · have inside' : index < kept.length := same ▸ inside
    rw [List.getElem?_append_left inside', List.getElem?_eq_getElem inside,
      List.getElem?_eq_getElem inside']
    exact Or.inl ⟨_, _, rfl, rfl, each.get inside inside'⟩
  · refine Or.inr ⟨List.getElem?_eq_none (Nat.not_lt.mp inside), ?_⟩
    intro page found
    rw [List.getElem?_append_right (by omega)] at found
    exact unknown page (List.mem_of_getElem? found)

end PagesDrift

theorem drifts_of_passed {eligible : Page → Bool} {image : Image} {pages passed : List Page}
    (all : List.Forall₂ (Passed eligible image) pages passed) :
    List.Forall₂ Page.Drifts pages passed := all.imp fun _ _ => Passed.drifts

theorem drifts_set {pages : List Page} {index : Nat} {page next : Page}
    (found : pages[index]? = some page) (drifts : page.Drifts next) :
    List.Forall₂ Page.Drifts pages (pages.set index next) := by
  induction pages generalizing index with
  | nil => exact .nil
  | cons first rest ih =>
    cases index with
    | zero =>
      cases found
      exact .cons drifts (List.forall₂_same.mpr fun page _ => .refl page)
    | succ index => exact .cons (.refl first) (ih found)

namespace Atlas

variable {atlas : Atlas}

/-- A reply that tells the renderer nothing, though it may have let the pages drift. -/
structure Quiet {α : Type} (atlas : Atlas) (reply : Reply α) : Prop where
  drift : PagesDrift atlas.pages reply.atlas.pages
  silent : reply.transfers = []

theorem Quiet.map {α β : Type} {reply : Reply α} (quiet : atlas.Quiet reply) (f : α → β) :
    atlas.Quiet (reply.map f) := ⟨quiet.drift, quiet.silent⟩

theorem quiet_of_pages_eq {α : Type} {reply : Reply α} (pages_eq : reply.atlas.pages = atlas.pages)
    (silent : reply.transfers = []) : atlas.Quiet reply := by
  refine ⟨?_, silent⟩
  rw [pages_eq]
  exact .refl _

theorem Locates.quiet {eligible : Page → Bool} {image : Image} {floor : Size} {dedicated : Bool}
    {reply : Reply (Nat × Placement)}
    (locates : Locates eligible atlas image floor dedicated reply) : atlas.Quiet reply := by
  cases locates with
  | @onPage before after passed page next placement split all opened result inserts =>
    refine ⟨?_, rfl⟩
    rw [split]
    have kept : List.Forall₂ Page.Drifts after after := List.forall₂_same.mpr fun page _ => .refl page
    exact .of_forall₂ (List.rel_append (drifts_of_passed all) (.cons inserts.drifts kept))
  | elsewhere all opens =>
    cases opens with
    | tooLarge | usedUp => exact ⟨.of_forall₂ (drifts_of_passed all), rfl⟩
    | opened sized left blank result inserts =>
      have unknown := Page.unknown_of_blank (Page.isBlank_of_blank blank) inserts
      exact ⟨⟨_, _, rfl, drifts_of_passed all, List.forall_mem_singleton.mpr unknown⟩, rfl⟩

theorem getOrCreateAmong_quiet (eligible : Page → Bool) (valid : ∀ page ∈ atlas.pages, page.Valid)
    (id : FragmentId) (image : Image) (allocation : Allocation) :
    atlas.Quiet (atlas.getOrCreateAmong eligible id image allocation) := by
  rcases getOrCreateAmong_cases eligible valid id image allocation with
    ⟨fragment, _, result⟩ | ⟨_, creates⟩
  · rw [result]
    exact quiet_of_pages_eq rfl rfl
  · generalize atlas.getOrCreateAmong eligible id image allocation = reply at creates ⊢
    cases creates with
    | invalid refused => exact quiet_of_pages_eq rfl rfl
    | nowhere validated locates | placed validated locates =>
      exact ⟨locates.quiet.drift, locates.quiet.silent⟩

theorem free_quiet (valid : ∀ page ∈ atlas.pages, page.Valid) (id : FragmentId) :
    atlas.Quiet (atlas.free id) := by
  have frees := atlas.free_frees id
  generalize atlas.free id = reply at frees ⊢
  cases frees with
  | absent | astray => exact quiet_of_pages_eq rfl rfl
  | @unheld fragment _ _ _ live found result | @freed fragment _ _ live found result =>
    have drifts := (valid _ (List.mem_of_getElem? found)).remove_drifts fragment.row fragment.span
    rw [result] at drifts
    exact ⟨.of_forall₂ (drifts_set found drifts), rfl⟩

end Atlas

/-- What the operation changes it tells the renderer. -/
def Operation.sends : Operation → Bool
  | .flush | .dropBitmaps | .clear => true
  | .getOrCreate .. | .getOrCreateNamed .. | .free _ | .setPageLimit _ | .setPageSize _
  | .setRegistry _ => false

/-- An operation that sends nothing lets the pages drift. -/
theorem Atlas.perform_quiet {atlas : Atlas} (valid : ∀ page ∈ atlas.pages, page.Valid)
    {operation : Operation} (keeps : operation.sends = false) :
    atlas.Quiet (atlas.perform operation) := by
  cases operation with
  | getOrCreate id image allocation =>
    exact (getOrCreateAmong_quiet Page.isOpen valid id image allocation).map _
  | getOrCreateNamed label image allocation =>
    refine Quiet.map ?_ _
    rcases atlas.getOrCreateNamedAmong_cases Page.isOpen label image allocation with
      ⟨_, _, _, _, result⟩ | ⟨_, registry, result⟩ <;> rw [result]
    · exact quiet_of_pages_eq rfl rfl
    · have quiet := @getOrCreateAmong_quiet { atlas with registry } Page.isOpen valid (.ofLabel label)
        image allocation
      exact ⟨quiet.drift, quiet.silent⟩
  | free id => exact (free_quiet valid id).map _
  | clear | flush | dropBitmaps => cases keeps
  | setPageLimit limit => exact quiet_of_pages_eq rfl rfl
  | setPageSize size =>
    obtain ⟨_, settings, _, result⟩ := performAmong_setPageSize Page.isOpen atlas size
    rw [perform, result]
    exact quiet_of_pages_eq rfl rfl
  | setRegistry registry => exact quiet_of_pages_eq rfl rfl

end TextureAtlas
