import TextureAtlas.Proofs.Atlas.Pages

/-! # Exhausted pages may be passed over

The search for a shared page passes over pages that were found full. An atlas that asks those too
(`Page.isShared` in the place of `Page.isOpen`) gives the same replies, step by step: an exhausted
page would refuse the image and stay as it is. -/
set_option autoImplicit false

namespace TextureAtlas

/-- Takes shared fragments, whether it was found full or not. -/
def Page.isShared (page : Page) : Bool := !page.dedicated

theorem insertFirst_isOpen_eq {image : Image} (validated : image.validate = .ok ()) (start : Nat)
    {pages : List Page} (honest : ∀ page ∈ pages, page.Honest) :
    insertFirst Page.isOpen image start pages = insertFirst Page.isShared image start pages := by
  induction pages generalizing start with
  | nil => rfl
  | cons first rest ih =>
    obtain ⟨first_honest, rest_honest⟩ := List.forall_mem_cons.mp honest
    have searched := ih (start + 1) rest_honest
    cases dedicated : first.dedicated with
    | true => simp only [insertFirst, Page.isOpen, Page.isShared, dedicated, searched, Bool.not_true,
        Bool.false_and, Bool.false_eq_true, if_false]
    | false =>
      cases exhausted : first.exhausted with
      | true =>
        have refused := first_honest.insert_of_exhausted exhausted validated
        simp only [insertFirst, Page.isOpen, Page.isShared, dedicated, exhausted, refused, searched,
          Bool.not_true, Bool.not_false, Bool.and_false, Bool.false_eq_true, if_false, if_true]
      | false => simp only [insertFirst, Page.isOpen, Page.isShared, dedicated, exhausted, searched,
          Bool.not_false, Bool.and_true]

namespace Atlas

theorem getOrCreateAmong_isOpen_eq {atlas : Atlas} (honest : ∀ page ∈ atlas.pages, page.Honest)
    (id : FragmentId) (image : Image) (allocation : Allocation) :
    atlas.getOrCreateAmong Page.isOpen id image allocation =
      atlas.getOrCreateAmong Page.isShared id image allocation := by
  simp only [getOrCreateAmong]
  split
  · rfl
  · cases validated : image.validate with
    | error error => simp only [create, validated]
    | ok done =>
      cases allocation with
      | dedicated minimum => rfl
      | shared =>
        have searched := insertFirst_isOpen_eq validated 0 honest
        simp only [create, insertShared, validated, searched]

theorem performAmong_isOpen_eq {atlas : Atlas} (honest : ∀ page ∈ atlas.pages, page.Honest)
    (operation : Operation) :
    atlas.performAmong Page.isOpen operation = atlas.performAmong Page.isShared operation := by
  cases operation with
  | getOrCreate id image allocation =>
    exact congrArg (Reply.map Answer.fragment) (getOrCreateAmong_isOpen_eq honest id image allocation)
  | getOrCreateNamed label image allocation =>
    apply congrArg (Reply.map Answer.fragment)
    simp only [getOrCreateNamedAmong]
    split
    · exact getOrCreateAmong_isOpen_eq honest _ image allocation
    split
    · rfl
    · rename_i registry _
      exact @getOrCreateAmong_isOpen_eq { atlas with registry := some registry } honest _ image allocation
  | free _ | clear | flush | dropBitmaps | setPageLimit _ | setPageSize _ | setRegistry _ => rfl

/-- The replies to the operations, one after the other, each with the atlas it leaves. -/
def repliesAmong (eligible : Page → Bool) (atlas : Atlas) : List Operation → List (Reply Answer)
  | [] => []
  | operation :: operations =>
    atlas.performAmong eligible operation ::
      repliesAmong eligible (atlas.performAmong eligible operation).atlas operations

/-- Whatever is asked of it, an atlas that passes over exhausted pages gives the replies of one that does
not: the outcomes, the journal, the transfers, and the atlas after each operation. -/
theorem replies_isOpen_eq_isShared {atlas : Atlas} (reachable : atlas.Reachable)
    (operations : List Operation) :
    atlas.repliesAmong Page.isOpen operations = atlas.repliesAmong Page.isShared operations := by
  induction operations generalizing atlas with
  | nil => rfl
  | cons operation operations ih =>
    have same := performAmong_isOpen_eq reachable.honest operation
    have later := ih (reachable.after [operation])
    simp only [repliesAmong, ← same]
    exact congrArg _ later

/-- On pages of a single texel, the second fragment finds the first page full. -/
def crowded : Atlas :=
  (empty ⟨⟨1, 1⟩, 0, false⟩).after
    [.getOrCreate ⟨1⟩ (.packed 1 1 #[7]) .shared, .getOrCreate ⟨2⟩ (.packed 1 1 #[8]) .shared]

theorem crowded_reachable : crowded.Reachable := ⟨⟨⟨1, 1⟩, 0, false⟩, _, _, rfl, rfl⟩

theorem replies_isOpen_eq_isShared_crowded :
    let operations : List Operation := [.getOrCreate ⟨3⟩ (.packed 1 1 #[9]) .shared, .free ⟨1⟩,
      .getOrCreate ⟨4⟩ (.packed 1 1 #[6]) .shared]
    crowded.Reachable ∧ crowded.pages.map Page.exhausted = [true, false] ∧
      crowded.repliesAmong Page.isOpen operations = crowded.repliesAmong Page.isShared operations :=
  ⟨crowded_reachable, by decide +kernel, replies_isOpen_eq_isShared crowded_reachable _⟩

end Atlas
end TextureAtlas
