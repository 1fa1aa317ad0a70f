import TextureAtlas.Proofs.Atlas.Steps
import TextureAtlas.Proofs.Renderer.Coherence

/-! # The trace of a position

The trace of a position lists what the renderer is told about it, in order, and the images that are
placed on the page there in between. It obeys two rules (`Trace.Obeys`): nothing is released that was not
uploaded, and nothing is uploaded twice without a new image on it. The two marks of the page say where in
its trace a position stands (`Tracks`), and whatever happens to the pages keeps them in step. -/
set_option autoImplicit false

namespace TextureAtlas

/-! ## Traces -/

/-- What happens at a position: an image is placed on the page there, or the renderer is told of it. -/
inductive Event
  | filled
  | uploaded
  | released
deriving DecidableEq, Repr

/-- The renderer is told. -/
def Event.isCall : Event → Bool
  | filled => false
  | uploaded | released => true

/-- What happened at a position so far, the latest event last. -/
abbrev Trace := List Event

namespace Trace

/-- What the renderer was told last. -/
def lastCall? (trace : Trace) : Option Event := (trace.filter Event.isCall).getLast?

variable {trace : Trace}

@[simp] theorem lastCall?_filled (trace : Trace) :
    lastCall? (trace ++ [.filled]) = trace.lastCall? := by
  simp [lastCall?, Event.isCall]

@[simp] theorem lastCall?_uploaded (trace : Trace) :
    lastCall? (trace ++ [.uploaded]) = some .uploaded := by
  simp [lastCall?, Event.isCall]

@[simp] theorem lastCall?_released (trace : Trace) :
    lastCall? (trace ++ [.released]) = some .released := by
  simp [lastCall?, Event.isCall]

theorem lastCall?_of_getLast? (last : trace.getLast? = some .uploaded) :
    trace.lastCall? = some .uploaded := by
  obtain ⟨early, rfl⟩ := List.getLast?_eq_some_iff.mp last
  exact lastCall?_uploaded early

/-- What may come next: a release of what is uploaded, an upload of what was not just uploaded. -/
def Allows (trace : Trace) : Event → Prop
  | .filled => True
  | .uploaded => trace.getLast? ≠ some .uploaded
  | .released => trace.lastCall? = some .uploaded

/-- Each event is allowed by those before it. -/
def Obeys (trace : Trace) : Prop :=
  ∀ (early : Trace) (event : Event) (late : Trace), trace = early ++ event :: late → early.Allows event

theorem obeys_nil : Obeys [] := by
  intro early event late split
  simp at split

theorem Obeys.snoc (obeys : trace.Obeys) {event : Event} (allowed : trace.Allows event) :
    Obeys (trace ++ [event]) := by
  intro early event' late split
  rcases List.eq_nil_or_concat late with rfl | ⟨late, last, rfl⟩
  · obtain ⟨rfl, same⟩ := List.append_inj' split rfl
    cases same
    exact allowed
  · have longer : trace ++ [event] = (early ++ event' :: late) ++ [last] := by
      rw [split]
      simp
    exact obeys early event' late (List.append_inj_left' longer rfl)

/-- Between two uploads with no release an image is placed. -/
theorem Obeys.filled_between (obeys : trace.Obeys) {early between late : Trace}
    (split : trace = early ++ .uploaded :: (between ++ .uploaded :: late))
    (unreleased : .released ∉ between) : .filled ∈ between := by
  have allowed : Allows (early ++ .uploaded :: between) .uploaded := by
    apply obeys _ .uploaded late
    rw [split]
    simp
  rcases List.eq_nil_or_concat between with rfl | ⟨between, last, rfl⟩
  · exact absurd List.getLast?_concat allowed
  · cases last with
    | filled => simp
    | uploaded =>
      rw [List.concat_eq_append, ← List.cons_append, ← List.append_assoc] at allowed
      exact absurd List.getLast?_concat allowed
    | released => simp at unreleased

end Trace

/-! ## The trace and the marks of a page -/

/-- The page at the position is marked as its trace says. -/
structure Tracks (trace : Trace) (page? : Option Page) : Prop where
  obeys : trace.Obeys
  held_iff : trace.lastCall? = some .uploaded ↔ page?.map Page.uploaded = some true
  clean : trace.getLast? = some .uploaded → page?.map Page.dirty = some false

namespace Tracks

variable {trace : Trace} {page? next? : Option Page} {page next : Page}

theorem start : Tracks [] none := by
  refine ⟨Trace.obeys_nil, ?_, ?_⟩ <;> simp [Trace.lastCall?]

theorem kept (tracks : Tracks trace page?)
    (uploaded_eq : next?.map Page.uploaded = page?.map Page.uploaded)
    (dirty_eq : next?.map Page.dirty = page?.map Page.dirty) : Tracks trace next? := by
  refine ⟨tracks.obeys, ?_, ?_⟩
  · rw [uploaded_eq]
    exact tracks.held_iff
  · rw [dirty_eq]
    exact tracks.clean

theorem filled (tracks : Tracks trace page?)
    (uploaded_iff : next.uploaded = true ↔ page?.map Page.uploaded = some true) :
    Tracks (trace ++ [.filled]) (some next) := by
  refine ⟨tracks.obeys.snoc trivial, ?_, ?_⟩
  · rw [Trace.lastCall?_filled, tracks.held_iff, ← uploaded_iff]
    simp
  · simp

theorem uploaded (tracks : Tracks trace (some page)) (dirty : page.dirty = true)
    (held : next.uploaded = true) (clean : next.dirty = false) :
    Tracks (trace ++ [.uploaded]) (some next) := by
  have allowed : trace.Allows .uploaded := by
    intro last
    cases (tracks.clean last).symm.trans (congrArg some dirty)
  refine ⟨tracks.obeys.snoc allowed, ?_, ?_⟩
  · simp [held]
  · simp [clean]

theorem released (tracks : Tracks trace (some page)) (held : page.uploaded = true)
    (unheld : next?.map Page.uploaded ≠ some true) : Tracks (trace ++ [.released]) next? := by
  have allowed : trace.Allows .released := tracks.held_iff.mpr (congrArg some held)
  refine ⟨tracks.obeys.snoc allowed, ?_, ?_⟩
  · simp [unheld]
  · simp

/-- A page of which nothing is held may go. -/
theorem gone (tracks : Tracks trace page?) (unheld : page?.map Page.uploaded ≠ some true) :
    Tracks trace none := by
  have never : trace.lastCall? ≠ some .uploaded := tracks.held_iff.not.mpr unheld
  refine ⟨tracks.obeys, ?_, ?_⟩
  · simp [never]
  · intro last
    exact absurd (Trace.lastCall?_of_getLast? last) never

end Tracks

/-! ## Transfers at a position -/

def Transfer.event : Transfer → Event
  | .upload .. => .uploaded
  | .release _ => .released

/-- Of all pages, only the one at the position tells anything about it. -/
theorem filter_transferAll {operation : Page → Nat → Option Transfer × Page}
    (keeps : KeepsToItself operation) (start : Nat) (pages : List Page) (index : Nat) :
    (transferAll operation start pages).1.filter (fun transfer => transfer.page = start + index) =
      (pages[index]?.bind fun page => (operation page (start + index)).1).toList := by
  induction pages generalizing start index with
  | nil => rfl
  | cons page pages ih =>
    unfold transferAll
    rw [List.filter_append]
    cases index with
    | zero =>
      have own : (operation page start).1.toList.filter (fun transfer => transfer.page = start + 0) =
          (operation page start).1.toList := by
        apply List.filter_eq_self.mpr
        intro transfer sent
        exact decide_eq_true (keeps page start transfer (Option.mem_toList.mp sent))
      have others : (transferAll operation (start + 1) pages).1.filter
          (fun transfer => transfer.page = start + 0) = [] := by
        apply List.filter_eq_nil_iff.mpr
        intro transfer member
        have later := le_of_mem_transferAll keeps member
        simp only [decide_eq_true_eq]
        omega
      rw [own, others, List.append_nil]
      rfl
    | succ index =>
      have other : (operation page start).1.toList.filter
          (fun transfer => transfer.page = start + (index + 1)) = [] := by
        apply List.filter_eq_nil_iff.mpr
        intro transfer sent
        have here := keeps page start transfer (Option.mem_toList.mp sent)
        simp only [decide_eq_true_eq]
        omega
      have shifted : start + (index + 1) = start + 1 + index := by omega
      rw [other, List.nil_append, shifted]
      exact ih (start + 1) index

theorem mem_transferAll_iff {operation : Page → Nat → Option Transfer × Page}
    (keeps : KeepsToItself operation) (pages : List Page) (transfer : Transfer) :
    transfer ∈ (transferAll operation 0 pages).1 ↔
      ∃ page, pages[transfer.page]? = some page ∧ (operation page transfer.page).1 = some transfer := by
  have here := filter_transferAll keeps 0 pages transfer.page
  rw [Nat.zero_add] at here
  have member_iff : transfer ∈ (transferAll operation 0 pages).1 ↔
      transfer ∈ (transferAll operation 0 pages).1.filter (fun other => other.page = transfer.page) := by
    simp
  rw [member_iff, here, Option.mem_toList]
  exact Option.bind_eq_some_iff

theorem Page.sync_clean (page : Page) (index : Nat) : (page.sync index).2.dirty = false := by
  cases dirty : page.dirty <;> simp [sync, flush, dirty]

theorem Page.dropBitmap_unheld (page? : Option Page) (index : Nat) :
    (page?.map fun page => (page.dropBitmap index).2).map Page.uploaded ≠ some true := by
  cases page? with
  | none => simp
  | some page =>
    cases uploaded : page.uploaded <;> simp [dropBitmap, uploaded]

namespace Tracks

variable {trace : Trace} {page? : Option Page}

theorem sync (tracks : Tracks trace page?) (index : Nat) :
    Tracks (trace ++ (page?.bind fun page => (page.sync index).1).toList.map Transfer.event)
      (page?.map fun page => (page.sync index).2) := by
  cases page? with
  | none =>
    simp only [Option.bind_none, Option.toList_none, List.map_nil, List.append_nil]
    exact tracks
  | some page =>
    simp only [Option.bind_some, Option.map_some, Page.sync, Page.flush]
    cases dirty : page.dirty with
    | true => exact tracks.uploaded dirty rfl rfl
    | false =>
      simp only [Bool.false_eq_true, if_false, Option.toList_none, List.map_nil, List.append_nil]
      exact tracks

theorem dropBitmap (tracks : Tracks trace page?) (index : Nat) :
    Tracks (trace ++ (page?.bind fun page => (page.dropBitmap index).1).toList.map Transfer.event)
      (page?.map fun page => (page.dropBitmap index).2) := by
  cases page? with
  | none =>
    simp only [Option.bind_none, Option.toList_none, List.map_nil, List.append_nil]
    exact tracks
  | some page =>
    simp only [Option.bind_some, Option.map_some, Page.dropBitmap]
    cases uploaded : page.uploaded with
    | true => exact tracks.released uploaded (by simp)
    | false =>
      simp only [Bool.false_eq_true, if_false, Option.toList_none, List.map_nil, List.append_nil]
      exact tracks

end Tracks

/-! ## The pages of an atlas -/

/-- What does not depend on whether the pages were found full. -/
theorem map_of_consulted {α : Type} (view : Page → α)
    (ignores : ∀ page full, view { page with exhausted := full } = view page) {pages others : List Page}
    (each : List.Forall₂ Page.Consulted pages others) (index : Nat) :
    others[index]?.map view = pages[index]?.map view := by
  have same : others.map view = pages.map view := by
    induction each with
    | nil => rfl
    | cons first _ ih =>
      obtain ⟨full, rfl⟩ := first
      rw [List.map_cons, List.map_cons, ignores, ih]
  rw [← List.getElem?_map, ← List.getElem?_map, same]

namespace Tracks

variable {trace : Trace} {pages others : List Page} {index : Nat} {page next : Page}

theorem consulted (tracks : Tracks trace pages[index]?)
    (each : List.Forall₂ Page.Consulted pages others) : Tracks trace others[index]? :=
  tracks.kept (map_of_consulted Page.uploaded (fun _ _ => rfl) each index)
    (map_of_consulted Page.dirty (fun _ _ => rfl) each index)

/-- An image is placed on the page at `position`. -/
theorem placed (tracks : Tracks trace pages[index]?) {position : Nat}
    (found : pages[position]? = some page) (uploaded_eq : next.uploaded = page.uploaded) :
    Tracks (trace ++ if position = index then [.filled] else []) (pages.set position next)[index]? := by
  by_cases same : position = index
  · subst same
    rw [if_pos rfl, List.getElem?_set_self (List.getElem?_eq_some_iff.mp found).1]
    apply tracks.filled
    rw [found, uploaded_eq]
    simp
  · rw [if_neg same, List.append_nil, List.getElem?_set_ne same]
    exact tracks

/-- A page joins with an image on it. -/
theorem joined (tracks : Tracks trace pages[index]?) (unheld : next.uploaded = false) :
    Tracks (trace ++ if pages.length = index then [.filled] else []) (pages ++ [next])[index]? := by
  rcases Nat.lt_trichotomy index pages.length with less | rfl | more
  · rw [if_neg (by omega), List.append_nil, List.getElem?_append_left less]
    exact tracks
  · rw [if_pos rfl, List.getElem?_concat_length]
    apply tracks.filled
    simp [unheld]
  · have nowhere : pages[index]? = none := List.getElem?_eq_none (by omega)
    have nowhere' : (pages ++ [next])[index]? = none := List.getElem?_eq_none (by simp; omega)
    rw [if_neg (by omega), List.append_nil, nowhere', ← nowhere]
    exact tracks

/-- An operation on all pages does at the position what it does to the page there. -/
theorem transferAll {operation : Page → Nat → Option Transfer × Page} (keeps : KeepsToItself operation)
    (own : Tracks
      (trace ++ (pages[index]?.bind fun page => (operation page index).1).toList.map Transfer.event)
      (pages[index]?.map fun page => (operation page index).2)) :
    Tracks
      (trace ++ ((transferAll operation 0 pages).1.filter fun transfer => transfer.page = index).map
        Transfer.event)
      (transferAll operation 0 pages).2[index]? := by
  have sent := filter_transferAll keeps 0 pages index
  have pages_eq := getElem?_transferAll operation 0 pages index
  rw [Nat.zero_add] at sent pages_eq
  rw [sent, pages_eq]
  exact own

end Tracks

end TextureAtlas
