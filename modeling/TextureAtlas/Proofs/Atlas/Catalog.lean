import TextureAtlas.Proofs.Atlas.Lines
import TextureAtlas.Proofs.Atlas.Pages

/-! # The journal is complete

A catalog keeps of an atlas what its journal can tell: the sizes of the pages and which of them are
dedicated, and for each fragment its page and its rectangle. It is rebuilt from the records alone
(`Catalog.replay`), and no record contradicts those before it (`Catalog.Truthful`). What one operation
writes tells of exactly what it did (`Catalog.Tells`), so the journal of a history tells of all of it. -/
set_option autoImplicit false

namespace TextureAtlas

/-! ## Tables under a map -/

namespace Table

variable {κ α β : Type}

def map (f : α → β) (table : Table κ α) : Table κ β :=
  ⟨table.entries.map fun entry => (entry.1, f entry.2), by
    rw [List.map_map]
    exact table.nodup⟩

theorem size_map (f : α → β) (table : Table κ α) : (table.map f).size = table.size :=
  List.length_map _

variable [DecidableEq κ]

theorem get?_map (f : α → β) (table : Table κ α) (key : κ) :
    (table.map f).get? key = (table.get? key).map f := by
  simp only [get?, map]
  induction table.entries with
  | nil => rfl
  | cons entry rest ih =>
    rw [List.map_cons, valueOf, valueOf, ih]
    split <;> rfl

theorem map_erase (f : α → β) (table : Table κ α) (key : κ) :
    (table.erase key).map f = (table.map f).erase key := by
  simp only [map, erase, mk.injEq, List.filter_map]
  rfl

theorem map_insert (f : α → β) (table : Table κ α) (key : κ) (value : α) :
    (table.insert key value).map f = (table.map f).insert key (f value) := by
  have erased := congrArg entries (map_erase f table key)
  simp only [insert, ← erased]
  rfl

end Table

/-! ## Catalogs -/

structure Catalog where
  /-- The size of each page, and whether it is dedicated. -/
  pages : List (Size × Bool)
  /-- The page and the rectangle of each fragment. -/
  fragments : Table FragmentId (Nat × Rectangle)

namespace Catalog

def empty : Catalog := ⟨[], Table.empty⟩

def enter (catalog : Catalog) : Record → Catalog
  | .opened _ size dedicated => { catalog with pages := catalog.pages ++ [(size, dedicated)] }
  | .placed id page rectangle =>
    { catalog with fragments := catalog.fragments.insert id (page, rectangle) }
  | .freed id _ => { catalog with fragments := catalog.fragments.erase id }
  | .clearing .. => empty
  | .refused .. => catalog

def replay (catalog : Catalog) (records : List Record) : Catalog := records.foldl enter catalog

theorem replay_append (catalog : Catalog) (records later : List Record) :
    catalog.replay (records ++ later) = (catalog.replay records).replay later := List.foldl_append

/-- The record fits what is known when it is written. -/
def Admits (catalog : Catalog) : Record → Prop
  | .opened number _ _ => number = catalog.pages.length
  | .placed id page _ => page < catalog.pages.length ∧ catalog.fragments.get? id = none
  | .freed id page => ∃ rectangle, catalog.fragments.get? id = some (page, rectangle)
  | .clearing fragments pages => fragments = catalog.fragments.size ∧ pages = catalog.pages.length
  | .refused _ limit => limit ≠ 0 ∧ limit ≤ catalog.pages.length

/-- Each record fits what the records before it tell. -/
def Truthful (catalog : Catalog) : List Record → Prop
  | [] => True
  | record :: records => catalog.Admits record ∧ (catalog.enter record).Truthful records

theorem truthful_append {catalog : Catalog} {records later : List Record} :
    catalog.Truthful (records ++ later) ↔
      catalog.Truthful records ∧ (catalog.replay records).Truthful later := by
  induction records generalizing catalog with
  | nil => exact ⟨fun told => ⟨trivial, told⟩, And.right⟩
  | cons record records ih =>
    rw [List.cons_append, Truthful, Truthful, ih, and_assoc]
    rfl

end Catalog

/-- What the journal tells of the page when it is opened. -/
def Page.entry (page : Page) : Size × Bool := (page.size, page.dedicated)

/-- What the journal tells of the fragment when it is placed. -/
def Fragment.entry (fragment : Fragment) : Nat × Rectangle := (fragment.page, fragment.rectangle)

def Atlas.catalog (atlas : Atlas) : Catalog :=
  ⟨atlas.pages.map Page.entry, atlas.fragments.map Fragment.entry⟩

namespace Page

variable {page next : Page}

theorem entry_of_unmarked_eq (same : next.unmarked = page.unmarked) : next.entry = page.entry := by
  obtain ⟨packing_eq, _, dedicated_eq, _⟩ := unmarked_eq_iff.mp same
  simp only [entry, size, packing_eq, dedicated_eq]

theorem entries_of_unmarked_eq {pages others : List Page}
    (same : others.map unmarked = pages.map unmarked) : others.map entry = pages.map entry := by
  have via : ∀ pages : List Page, pages.map entry = (pages.map unmarked).map entry := by
    intro pages
    rw [List.map_map]
    exact List.map_congr_left fun page _ => entry_of_unmarked_eq rfl
  rw [via, via pages, same]

theorem Inserts.entry_eq {image : Image} {placement : Placement}
    (inserts : page.Inserts image placement next) : next.entry = page.entry := by
  have size_eq : next.size = page.size := inserts.places.size_eq
  have dedicated_eq : next.dedicated = page.dedicated := by rw [inserts.next_eq]
  simp only [entry, size_eq, dedicated_eq]

theorem entry_of_remove {row : Nat} {span : Span} (removed : page.remove row span = (.ok (), next)) :
    next.entry = page.entry := by
  obtain ⟨packing, released, rfl⟩ := remove_eq_ok_iff.mp removed
  obtain ⟨_, _, _, _, rfl⟩ := Packing.release_eq_ok_iff.mp released
  rfl

end Page

/-! ## What one operation tells -/

/-- From the catalog before, the records lead to the catalog after; the numbers in them are those of the
catalog before; and there is a warning exactly if the page limit is the reason to refuse. -/
structure Catalog.Tells {α : Type} (catalog : Catalog) (reply : Reply α) : Prop where
  replay_eq : catalog.replay reply.journal = reply.atlas.catalog
  truthful : catalog.Truthful reply.journal
  opened_eq : ∀ number size dedicated, .opened number size dedicated ∈ reply.journal →
    number = catalog.pages.length
  clearing_eq : ∀ fragments pages, .clearing fragments pages ∈ reply.journal →
    fragments = catalog.fragments.size ∧ pages = catalog.pages.length
  warns_iff : (∃ record ∈ reply.journal, record.level = .warn) ↔
    reply.outcome = .error (.rejected .pageLimitReached)

namespace Catalog.Tells

variable {α β : Type} {catalog : Catalog} {reply : Reply α}

/-- Where nothing happens that a catalog keeps, there is nothing to tell. -/
theorem silent (unwritten : reply.journal = []) (same : reply.atlas.catalog = catalog)
    (within : reply.outcome ≠ .error (.rejected .pageLimitReached)) : catalog.Tells reply := by
  constructor <;> rw [unwritten]
  case replay_eq => exact same.symm
  case truthful => exact trivial
  case opened_eq => simp
  case clearing_eq => simp
  case warns_iff => exact iff_of_false (by simp) within

/-- A single record has only to fit what is known, and to lead to what is known afterwards. -/
theorem single {record : Record} (written : reply.journal = [record]) (admits : catalog.Admits record)
    (entered : catalog.enter record = reply.atlas.catalog)
    (warns_iff : record.level = .warn ↔ reply.outcome = .error (.rejected .pageLimitReached)) :
    catalog.Tells reply := by
  constructor <;> rw [written]
  case replay_eq => exact entered
  case truthful => exact ⟨admits, trivial⟩
  case opened_eq =>
    intro number size dedicated member
    cases List.mem_singleton.mp member
    exact admits
  case clearing_eq =>
    intro fragments pages member
    cases List.mem_singleton.mp member
    exact admits
  case warns_iff =>
    rw [← warns_iff]
    simp

theorem map (tells : catalog.Tells reply) (f : α → β) : catalog.Tells (reply.map f) where
  replay_eq := tells.replay_eq
  truthful := tells.truthful
  opened_eq := tells.opened_eq
  clearing_eq := tells.clearing_eq
  warns_iff := tells.warns_iff.trans Reply.map_eq_error_iff.symm

end Catalog.Tells

theorem Settings.error_of_validate {settings : Settings} {error : Error}
    (refused : settings.validate = .error error) : ∃ cause, error = .invalidSettings cause := by
  simp only [validate] at refused
  split at refused
  · cases refused
    exact ⟨_, rfl⟩
  split at refused <;> cases refused
  exact ⟨_, rfl⟩

namespace Atlas

variable {atlas : Atlas} {eligible : Page → Bool} {image : Image} {floor : Size} {dedicated : Bool}

theorem length_catalog (atlas : Atlas) : atlas.catalog.pages.length = atlas.pageCount :=
  List.length_map _

theorem size_catalog (atlas : Atlas) : atlas.catalog.fragments.size = atlas.size :=
  Table.size_map _ _

theorem get?_catalog (atlas : Atlas) (id : FragmentId) :
    atlas.catalog.fragments.get? id = (atlas.get? id).map Fragment.entry := Table.get?_map _ _ _

/-- Marks and texels leave no trace in the catalog. -/
theorem catalog_of_unmarked_eq {pages : List Page}
    (same : pages.map Page.unmarked = atlas.pages.map Page.unmarked) :
    catalog { atlas with pages } = atlas.catalog := by
  simp only [catalog, Page.entries_of_unmarked_eq same]

theorem Opens.tells {reply : Reply (Nat × Placement)} (opens : atlas.Opens image floor dedicated reply) :
    atlas.catalog.Tells reply := by
  cases opens with
  | tooLarge => exact .silent rfl rfl (by simp)
  | usedUp sized usedUp =>
    simp only [pagesUsedUp, Bool.and_eq_true, decide_eq_true_eq, ← length_catalog] at usedUp
    exact .single rfl usedUp rfl (iff_of_true rfl rfl)
  | @opened size page next placement sized left blanked result inserts =>
    have entry_eq : next.entry = (size, dedicated) := by
      rw [inserts.entry_eq, (Page.isBlank_of_blank blanked).page_eq]
      rfl
    refine .single rfl atlas.length_catalog.symm ?_ (by simp [Record.level])
    simp only [Catalog.enter, catalog, List.map_append, List.map_cons, List.map_nil, entry_eq]

theorem Locates.tells {reply : Reply (Nat × Placement)}
    (locates : Locates eligible atlas image floor dedicated reply) : atlas.catalog.Tells reply := by
  cases locates with
  | onPage split all opened result inserts =>
    refine .silent rfl ?_ (by simp)
    have before_eq := Page.entries_of_unmarked_eq (unmarked_of_passed all)
    simp only [catalog, split, List.map_append, List.map_cons, before_eq, inserts.entry_eq]
  | elsewhere all opens => exact catalog_of_unmarked_eq (unmarked_of_passed all) ▸ opens.tells

/-- The page that is found is one of those that are there afterwards. -/
theorem Locates.index_lt {index : Nat} {placement : Placement} {journal : List Record}
    {transfers : List Transfer} {next : Atlas}
    (locates : Locates eligible atlas image floor dedicated
      ⟨.ok (index, placement), journal, transfers, next⟩) :
    index < next.pageCount := by
  cases locates with
  | onPage split all =>
    rw [pageCount, List.length_append, ← all.length_eq]
    exact Nat.lt_add_of_pos_right (Nat.succ_pos _)
  | elsewhere all opens =>
    cases opens with
    | opened =>
      rw [pageCount, pageCount, List.length_append]
      exact Nat.lt_succ_self _

theorem Creates.tells {id : FragmentId} {allocation : Allocation} {reply : Reply Fragment}
    (absent : atlas.get? id = none) (creates : atlas.Creates eligible id image allocation reply) :
    atlas.catalog.Tells reply := by
  cases creates with
  | invalid refused =>
    obtain ⟨cause, rfl⟩ := Image.error_of_validate refused
    exact .silent rfl rfl (by simp)
  | nowhere validated locates =>
    obtain ⟨replay_eq, truthful, opened_eq, clearing_eq, warns_iff⟩ := locates.tells
    exact ⟨replay_eq, truthful, opened_eq, clearing_eq, by simpa using warns_iff⟩
  | @placed index placement journal transfers next validated locates =>
    obtain ⟨replay_eq, truthful, opened_eq, clearing_eq, warns_iff⟩ := locates.tells
    dsimp only at replay_eq
    constructor
    case replay_eq =>
      rw [Catalog.replay_append, replay_eq]
      simp only [Catalog.replay, List.foldl_cons, List.foldl_nil, Catalog.enter, catalog,
        Table.map_insert]
      rfl
    case truthful =>
      refine Catalog.truthful_append.mpr ⟨truthful, ?_⟩
      rw [replay_eq]
      refine ⟨⟨?_, ?_⟩, trivial⟩
      · rw [length_catalog]
        exact locates.index_lt
      · rw [get?_catalog, get?, locates.fragments_eq, ← get?, absent]
        rfl
    case opened_eq =>
      intro number size dedicated member
      exact opened_eq number size dedicated (by simpa using member)
    case clearing_eq =>
      intro fragments pages member
      exact clearing_eq fragments pages (by simpa using member)
    case warns_iff => simpa [or_and_right, exists_or, Record.level] using warns_iff

theorem getOrCreateAmong_tells (eligible : Page → Bool) (valid : ∀ page ∈ atlas.pages, page.Valid)
    (id : FragmentId) (image : Image) (allocation : Allocation) :
    atlas.catalog.Tells (atlas.getOrCreateAmong eligible id image allocation) := by
  rcases getOrCreateAmong_cases eligible valid id image allocation with
    ⟨fragment, live, result⟩ | ⟨absent, creates⟩
  · rw [result]
    exact .silent rfl rfl (by simp)
  · exact creates.tells absent

theorem getOrCreateNamedAmong_tells (eligible : Page → Bool) (valid : ∀ page ∈ atlas.pages, page.Valid)
    (label : String) (image : Image) (allocation : Allocation) :
    atlas.catalog.Tells (atlas.getOrCreateNamedAmong eligible label image allocation) := by
  rcases atlas.getOrCreateNamedAmong_cases eligible label image allocation with
    ⟨registry, fault, _, _, result⟩ | ⟨_, registry, result⟩ <;> rw [result]
  · exact .silent rfl rfl (by simp)
  · exact @getOrCreateAmong_tells { atlas with registry } eligible valid _ image allocation

theorem free_tells (ready : atlas.Ready) (id : FragmentId) : atlas.catalog.Tells (atlas.free id) := by
  rcases ready.free_cases id with
    ⟨_, result⟩ | ⟨fragment, page, next, live, found, removed, _, result⟩ <;> rw [result]
  · exact .silent rfl rfl (by simp)
  · -- The page keeps its entry, so setting it changes nothing of the list.
    have entries_eq : (atlas.pages.set fragment.page next).map Page.entry = atlas.pages.map Page.entry := by
      have entry_found : (atlas.pages.map Page.entry)[fragment.page]? = some page.entry := by
        rw [List.getElem?_map, ← page?, found]
        rfl
      obtain ⟨inside, entry_eq⟩ := List.getElem?_eq_some_iff.mp entry_found
      rw [List.map_set, Page.entry_of_remove removed, ← entry_eq, List.set_getElem_self]
    have admits : atlas.catalog.Admits (.freed id fragment.page) := by
      refine ⟨fragment.rectangle, ?_⟩
      rw [get?_catalog, live]
      rfl
    refine .single rfl admits ?_ (by simp [Record.level])
    simp only [Catalog.enter, catalog, entries_eq, Table.map_erase]

theorem clear_tells (atlas : Atlas) : atlas.catalog.Tells atlas.clear :=
  .single rfl ⟨atlas.size_catalog.symm, atlas.length_catalog.symm⟩ rfl
    (by simp [clear, Record.level])

theorem perform_tells (ready : atlas.Ready) (operation : Operation) :
    atlas.catalog.Tells (atlas.perform operation) := by
  have valid := ready.page_valid
  cases operation with
  | getOrCreate id image allocation =>
    exact (getOrCreateAmong_tells Page.isOpen valid id image allocation).map _
  | getOrCreateNamed label image allocation =>
    exact (getOrCreateNamedAmong_tells Page.isOpen valid label image allocation).map _
  | free id => exact (free_tells ready id).map _
  | clear => exact atlas.clear_tells.map _
  | flush =>
    rw [perform_flush]
    exact .silent rfl (catalog_of_unmarked_eq (transferAll_map Page.flush_unmarked 0 _)) (by simp)
  | dropBitmaps =>
    have tells : atlas.catalog.Tells atlas.dropBitmaps :=
      .silent rfl (catalog_of_unmarked_eq (transferAll_map Page.dropBitmap_unmarked 0 _))
        (by simp [dropBitmaps])
    exact tells.map _
  | setPageLimit limit => exact .silent rfl rfl (by simp [perform, performAmong])
  | setPageSize size =>
    simp only [perform, performAmong]
    rcases atlas.setPageSize_cases size with ⟨error, invalid, result⟩ | ⟨_, result⟩ <;> rw [result]
    · obtain ⟨cause, rfl⟩ := Settings.error_of_validate invalid
      exact .silent rfl rfl (by simp)
    · exact .silent rfl rfl (by simp)
  | setRegistry registry => exact .silent rfl rfl (by simp [perform, performAmong])

/-! ## What a history tells -/

/-- All that is written in the course of the operations. -/
def journal (atlas : Atlas) : List Operation → List Record
  | [] => []
  | operation :: operations =>
    (atlas.perform operation).journal ++ journal (atlas.perform operation).atlas operations

theorem journal_append (atlas : Atlas) (history later : List Operation) :
    atlas.journal (history ++ later) = atlas.journal history ++ (atlas.after history).journal later := by
  induction history generalizing atlas with
  | nil => rfl
  | cons operation history ih =>
    rw [List.cons_append, journal, journal, ih, List.append_assoc]
    rfl

theorem Reachable.replay_journal (reachable : atlas.Reachable) (later : List Operation) :
    atlas.catalog.replay (atlas.journal later) = (atlas.after later).catalog ∧
      atlas.catalog.Truthful (atlas.journal later) := by
  induction later generalizing atlas with
  | nil => exact ⟨rfl, trivial⟩
  | cons operation later ih =>
    have tells := perform_tells reachable.sound.ready operation
    obtain ⟨replay_eq, truthful⟩ := @ih (atlas.perform operation).atlas (reachable.after [operation])
    rw [← tells.replay_eq] at replay_eq truthful
    rw [journal, Catalog.replay_append, Catalog.truthful_append]
    exact ⟨replay_eq, tells.truthful, truthful⟩

/-- The journal of a history, read from the start, tells which pages and fragments there are at its end; its
lines are enough for that, and at any time each record fits what the records before it tell. A page that
is opened is numbered by the pages there are, a clearing gives the counts of that moment, and a warning
is written exactly if an operation is refused for the page limit. -/
theorem journal_complete {settings : Settings} {first : Atlas}
    (success : ofSettings settings = .ok first) (history : List Operation) :
    Catalog.empty.replay (first.journal history) = (first.after history).catalog ∧
    (∀ records : List Record,
      records.map Record.text = (first.journal history).map Record.text →
        records = first.journal history) ∧
    Catalog.empty.Truthful (first.journal history) ∧
    ∀ operation : Operation,
      let reply := (first.after history).perform operation
      first.journal (history ++ [operation]) = first.journal history ++ reply.journal ∧
      (∀ number size dedicated, .opened number size dedicated ∈ reply.journal →
        number = (first.after history).pageCount) ∧
      (∀ fragments pages, .clearing fragments pages ∈ reply.journal →
        fragments = (first.after history).size ∧ pages = (first.after history).pageCount) ∧
      ((∃ record ∈ reply.journal, record.level = .warn) ↔
        reply.outcome = .error (.rejected .pageLimitReached)) := by
  have start := reachable_of_ofSettings success
  have empty_catalog : first.catalog = Catalog.empty := by
    rw [eq_empty_of_ofSettings success]
    rfl
  obtain ⟨replay_eq, truthful⟩ := start.replay_journal history
  rw [empty_catalog] at replay_eq truthful
  refine ⟨replay_eq, ?_, truthful, ?_⟩
  · intro records same
    exact (List.map_inj_right fun _ _ line_eq => Record.text_injective line_eq).mp same
  · intro operation
    have tells := perform_tells (start.after history).sound.ready operation
    have opened_eq := tells.opened_eq
    have clearing_eq := tells.clearing_eq
    rw [length_catalog] at opened_eq clearing_eq
    rw [size_catalog] at clearing_eq
    refine ⟨?_, opened_eq, clearing_eq, tells.warns_iff⟩
    rw [journal_append, journal, journal, List.append_nil]

/-- With a single page a fragment is placed, asked for again, refused a page of its own, and freed. After
a clearing everything begins anew. -/
def loggedHistory : List Operation :=
  [.getOrCreate ⟨1⟩ (.packed 1 1 #[7]) .shared, .getOrCreate ⟨1⟩ (.packed 1 1 #[7]) .shared,
    .getOrCreate ⟨2⟩ sampleImage .shared, .getOrCreate ⟨3⟩ sampleImage (.dedicated ⟨1, 1⟩), .free ⟨1⟩,
    .free ⟨1⟩, .clear, .getOrCreate ⟨4⟩ sampleImage .shared]

theorem journal_complete_logged :
    let first := empty ⟨⟨8, 4⟩, 1, true⟩
    let refused := (first.after loggedHistory).perform (.getOrCreate ⟨5⟩ sampleImage (.dedicated ⟨1, 1⟩))
    ofSettings ⟨⟨8, 4⟩, 1, true⟩ = .ok first ∧
      first.journal loggedHistory =
        [.opened 0 ⟨8, 4⟩ false, .placed ⟨1⟩ 0 ⟨1, 1, 1, 1⟩, .placed ⟨2⟩ 0 ⟨4, 1, 2, 1⟩,
          .refused ⟨2, 1⟩ 1, .freed ⟨1⟩ 0, .clearing 1 1, .opened 0 ⟨8, 4⟩ false,
          .placed ⟨4⟩ 0 ⟨1, 1, 2, 1⟩] ∧
      Catalog.empty.replay (first.journal loggedHistory) = (first.after loggedHistory).catalog ∧
      refused.outcome = .error (.rejected .pageLimitReached) ∧
      ∃ record ∈ refused.journal, record.level = .warn := by
  have success : ofSettings ⟨⟨8, 4⟩, 1, true⟩ = .ok (empty ⟨⟨8, 4⟩, 1, true⟩) := rfl
  obtain ⟨replay_eq, _, _, steps⟩ := journal_complete success loggedHistory
  obtain ⟨_, _, _, warns_iff⟩ := steps (.getOrCreate ⟨5⟩ sampleImage (.dedicated ⟨1, 1⟩))
  have used_up : (((empty ⟨⟨8, 4⟩, 1, true⟩).after loggedHistory).perform
      (.getOrCreate ⟨5⟩ sampleImage (.dedicated ⟨1, 1⟩))).outcome =
        .error (.rejected .pageLimitReached) := by decide +kernel
  exact ⟨success, by decide +kernel, replay_eq, used_up, warns_iff.mpr used_up⟩

end Atlas
end TextureAtlas
