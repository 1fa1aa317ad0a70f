import TextureAtlas.Proofs.Renderer.Trace

/-! # What the renderer is told

After every history the trace of each position obeys the rules, and ends as the marks of the page there
say (`tracks_of_ofSettings`), also where the position is taken again after a clearing. From the marks
one can tell in turn which calls the next operation makes. -/
set_option autoImplicit false

namespace TextureAtlas.Atlas

variable {atlas : Atlas} {operation : Operation} {index : Nat}

/-! ## The events of an operation -/

/-- The position of the page on which the operation places an image, if it creates a fragment. -/
def filled? (atlas : Atlas) (operation : Operation) : Option Nat :=
  (atlas.created? operation).bind fun (id, _) =>
    ((atlas.perform operation).atlas.get? id).map Fragment.page

/-- What the operation makes happen at the position. -/
def eventsAt (atlas : Atlas) (index : Nat) (operation : Operation) : Trace :=
  (if atlas.filled? operation = some index then [.filled] else []) ++
    ((atlas.perform operation).transfers.filter fun transfer => transfer.page = index).map Transfer.event

/-- What a history makes happen there. -/
def traceAt (atlas : Atlas) (index : Nat) : List Operation → Trace
  | [] => []
  | operation :: history =>
    atlas.eventsAt index operation ++ (atlas.perform operation).atlas.traceAt index history

theorem eventsAt_of_no_request (unasked : operation.request? = none) :
    atlas.eventsAt index operation =
      ((atlas.perform operation).transfers.filter fun transfer => transfer.page = index).map
        Transfer.event := by
  simp [eventsAt, filled?, created?, unasked]

section Silent

variable (silent : (atlas.perform operation).transfers = [])

include silent

theorem eventsAt_of_unchanged
    (unchanged : (atlas.perform operation).atlas.fragments = atlas.fragments) :
    atlas.eventsAt index operation = [] := by
  have same : ∀ id, (atlas.perform operation).atlas.contains id = atlas.contains id := by
    intro id
    unfold contains
    rw [unchanged]
  simp [eventsAt, filled?, created?, same, silent]

theorem eventsAt_of_inserted {id : FragmentId} {image : Image} {fragment : Fragment}
    (request : operation.request? = some (id, image)) (absent : atlas.get? id = none)
    (inserted : (atlas.perform operation).atlas.fragments = atlas.fragments.insert id fragment) :
    atlas.eventsAt index operation = if fragment.page = index then [.filled] else [] := by
  have present : (atlas.perform operation).atlas.get? id = some fragment := by
    unfold get?
    rw [inserted, Table.get?_insert_self]
  have created : atlas.created? operation = some (id, image) := by
    simp only [created?, request, Option.filter_some, contains_eq, absent, present]
    rfl
  simp only [eventsAt, filled?, created, Option.bind_some, present, Option.map_some, silent,
    Option.some.injEq, List.filter_nil, List.map_nil, List.append_nil]

end Silent

/-! ## Traces and marks after a history -/

namespace Reachable

variable {trace : Trace}

/-- Where nothing is sent, a page may be filled, and all other pages keep their marks. -/
theorem tracks_of_silent (reachable : atlas.Reachable) (sends : operation.sends = false)
    (tracks : Tracks trace (atlas.page? index)) :
    Tracks (trace ++ atlas.eventsAt index operation) ((atlas.perform operation).atlas.page? index) := by
  have silent := (perform_quiet reachable.sound.page_valid sends).silent
  have step := reachable.step operation
  unfold page? at tracks ⊢
  generalize pages_eq : (atlas.perform operation).atlas.pages = pages at step ⊢
  generalize fragments_eq : (atlas.perform operation).atlas.fragments = fragments at step
  cases step with
  | consulted each =>
    rw [eventsAt_of_unchanged silent fragments_eq, List.append_nil]
    exact tracks.consulted each
  | filled request absent found shared inserts each =>
    obtain ⟨_, found', full, rfl⟩ := getElem?_of_forall₂ each found
    rw [eventsAt_of_inserted silent request absent fragments_eq]
    apply (tracks.consulted each).placed found'
    rw [inserts.next_eq]
  | opened request allocated absent left sized isBlank inserts each =>
    rw [eventsAt_of_inserted silent request absent fragments_eq, Placement.fragment, pageCount,
      each.length_eq]
    apply (tracks.consulted each).joined
    rw [inserts.next_eq, isBlank.page_eq]
  | @freed _ fragment page next live found removed =>
    have removes := (reachable.sound.page_valid page (List.mem_of_getElem? found)).remove_ok removed
    rw [eventsAt_of_no_request rfl, silent, List.filter_nil, List.map_nil, List.append_nil]
    by_cases same : fragment.page = index
    · subst same
      rw [List.getElem?_set_self (List.getElem?_eq_some_iff.mp found).1, removes.next_eq]
      apply tracks.kept <;> rw [found] <;> rfl
    · rw [List.getElem?_set_ne same]
      exact tracks
  | flushed | bitmapsDropped | cleared => cases sends

/-- One operation, whatever happens. -/
theorem tracks_next (reachable : atlas.Reachable) (operation : Operation)
    (tracks : Tracks trace (atlas.page? index)) :
    Tracks (trace ++ atlas.eventsAt index operation) ((atlas.perform operation).atlas.page? index) := by
  cases sends : operation.sends with
  | false => exact reachable.tracks_of_silent sends tracks
  | true =>
    cases operation with
    | flush =>
      rw [eventsAt_of_no_request rfl, perform_flush]
      exact .transferAll sync_keepsToItself (tracks.sync index)
    | dropBitmaps =>
      rw [eventsAt_of_no_request rfl]
      exact .transferAll dropBitmap_keepsToItself (tracks.dropBitmap index)
    | clear =>
      -- As if the bitmaps were dropped first.
      rw [eventsAt_of_no_request rfl]
      apply Tracks.gone (Tracks.transferAll dropBitmap_keepsToItself (tracks.dropBitmap index))
      rw [getElem?_transferAll]
      exact Page.dropBitmap_unheld _ _
    | getOrCreate | getOrCreateNamed | free | setPageLimit | setPageSize | setRegistry => cases sends

theorem tracks_after (reachable : atlas.Reachable) (history : List Operation)
    (tracks : Tracks trace (atlas.page? index)) :
    Tracks (trace ++ atlas.traceAt index history) ((atlas.after history).page? index) := by
  induction history generalizing atlas trace with
  | nil =>
    rw [traceAt, List.append_nil]
    exact tracks
  | cons operation history ih =>
    rw [traceAt, ← List.append_assoc]
    exact ih (reachable.after [operation]) (reachable.tracks_next operation tracks)

end Reachable

theorem tracks_of_ofSettings {settings : Settings} {first : Atlas}
    (success : ofSettings settings = .ok first) (history : List Operation) (index : Nat) :
    Tracks (first.traceAt index history) ((first.after history).page? index) := by
  have start : Tracks [] (first.page? index) := by
    rw [eq_empty_of_ofSettings success]
    exact .start
  exact (reachable_of_ofSettings success).tracks_after history start

/-! ## The calls of a single operation -/

/-- All that a flush sends are uploads, each of a page with its size and its texels. -/
theorem mem_transfers_flush_iff (transfer : Transfer) :
    transfer ∈ (atlas.perform .flush).transfers ↔
      ∃ page, atlas.page? transfer.page = some page ∧ page.dirty = true ∧
        transfer = .upload transfer.page page.size (bytesOfTexels page.texels) := by
  rw [perform_flush]
  have sent := mem_transferAll_iff sync_keepsToItself atlas.pages transfer
  refine sent.trans (exists_congr fun page => and_congr_right fun found => ?_)
  cases dirty : page.dirty <;> simp [Page.sync, Page.flush, dirty, eq_comm]

/-- Dropping the bitmaps, as clearing, sends nothing but releases of the uploaded pages. -/
theorem mem_transfers_drop_iff {operation : Operation}
    (drops : operation = .clear ∨ operation = .dropBitmaps) (transfer : Transfer) :
    transfer ∈ (atlas.perform operation).transfers ↔
      (∃ page, atlas.page? transfer.page = some page ∧ page.uploaded = true) ∧
        transfer = .release transfer.page := by
  have sent := mem_transferAll_iff dropBitmap_keepsToItself atlas.pages transfer
  have sends : (atlas.perform operation).transfers = (transferAll Page.dropBitmap 0 atlas.pages).1 := by
    rcases drops with rfl | rfl <;> rfl
  rw [sends, sent, ← exists_and_right]
  refine exists_congr fun page => ?_
  rw [and_assoc]
  refine and_congr_right fun found => ?_
  cases uploaded : page.uploaded <;> simp [Page.dropBitmap, uploaded, eq_comm]

/-- Only a flush uploads, and what it uploads is the page at that position. -/
theorem Reachable.page_of_upload (reachable : atlas.Reachable) {size : Size} {bytes : ByteArray}
    (sent : .upload index size bytes ∈ (atlas.perform operation).transfers) :
    ∃ page, atlas.page? index = some page ∧ size = page.size ∧ bytes = bytesOfTexels page.texels := by
  cases sends : operation.sends with
  | false =>
    rw [(perform_quiet reachable.sound.page_valid sends).silent] at sent
    cases sent
  | true =>
    cases operation with
    | flush =>
      obtain ⟨page, found, _, same⟩ := (mem_transfers_flush_iff _).mp sent
      cases same
      exact ⟨page, found, rfl, rfl⟩
    | clear => cases ((mem_transfers_drop_iff (Or.inl rfl) _).mp sent).2
    | dropBitmaps => cases ((mem_transfers_drop_iff (Or.inr rfl) _).mp sent).2
    | getOrCreate | getOrCreateNamed | free | setPageLimit | setPageSize | setRegistry => cases sends

theorem flush_outcome (atlas : Atlas) : (atlas.perform .flush).outcome =
    .ok (.flushed !(atlas.perform .flush).transfers.isEmpty) := by
  rw [perform_flush]

theorem flush_uploads_iff (atlas : Atlas) : (!(atlas.perform .flush).transfers.isEmpty) = true ↔
    ∃ index size bytes, .upload index size bytes ∈ (atlas.perform .flush).transfers := by
  rw [Bool.not_eq_true', List.isEmpty_eq_false_iff_exists_mem]
  constructor
  · rintro ⟨transfer, sent⟩
    obtain ⟨page, _, _, same⟩ := (mem_transfers_flush_iff transfer).mp sent
    rw [same] at sent
    exact ⟨_, _, _, sent⟩
  · rintro ⟨index, size, bytes, sent⟩
    exact ⟨_, sent⟩

/-- A flush leaves no page dirty, so that another one has nothing to send. -/
theorem transfers_flush_again (atlas : Atlas) :
    ((atlas.perform .flush).atlas.perform .flush).transfers = [] := by
  apply List.eq_nil_iff_forall_not_mem.mpr
  intro transfer member
  obtain ⟨page, found, dirty, _⟩ := (mem_transfers_flush_iff transfer).mp member
  rw [perform_flush, page?, getElem?_transferAll] at found
  obtain ⟨before, _, rfl⟩ := Option.map_eq_some_iff.mp found
  cases (before.sync_clean _).symm.trans dirty

/-- At every position, whatever was done before: a release follows an upload, and between two uploads
with no release an image is placed. An upload carries the size and four bytes for each texel of the page
that is there. Clearing and dropping the bitmaps release just the positions that were uploaded last, and
send nothing else. A flush tells whether it uploaded anything, and after it another one does not. -/
theorem transfers_follow_protocol {settings : Settings} {first : Atlas}
    (success : ofSettings settings = .ok first) (history : List Operation) :
    (∀ (index : Nat) (early late : Trace), first.traceAt index history = early ++ .released :: late →
      early.lastCall? = some .uploaded) ∧
    (∀ (index : Nat) (early between late : Trace),
      first.traceAt index history = early ++ .uploaded :: (between ++ .uploaded :: late) →
      .released ∉ between → .filled ∈ between) ∧
    (∀ (operation : Operation) (index : Nat) (size : Size) (bytes : ByteArray),
      .upload index size bytes ∈ ((first.after history).perform operation).transfers →
      ∃ page, (first.after history).page? index = some page ∧ size = page.size ∧
        bytes.size = 4 * (page.size.width * page.size.height)) ∧
    (∀ operation : Operation, operation = .clear ∨ operation = .dropBitmaps →
      (∀ index, .release index ∈ ((first.after history).perform operation).transfers ↔
        (first.traceAt index history).lastCall? = some .uploaded) ∧
      ∀ transfer ∈ ((first.after history).perform operation).transfers,
        ∃ index, transfer = .release index) ∧
    ∃ any, ((first.after history).perform .flush).outcome = .ok (.flushed any) ∧
      (any = true ↔ ∃ index size bytes,
        .upload index size bytes ∈ ((first.after history).perform .flush).transfers) ∧
      (((first.after history).perform .flush).atlas.perform .flush).outcome = .ok (.flushed false) ∧
      (((first.after history).perform .flush).atlas.perform .flush).transfers = [] := by
  have tracks := tracks_of_ofSettings success history
  have reachable := (reachable_of_ofSettings success).after history
  generalize first.after history = atlas at tracks reachable ⊢
  refine ⟨?_, ?_, ?_, ?_, ?_⟩
  · intro index early late split
    exact (tracks index).obeys early .released late split
  · intro index early between late split unreleased
    exact (tracks index).obeys.filled_between split unreleased
  · intro operation index size bytes sent
    obtain ⟨page, found, size_eq, rfl⟩ := reachable.page_of_upload sent
    have valid := reachable.sound.page_valid page (List.mem_of_getElem? found)
    refine ⟨page, found, size_eq, ?_⟩
    rw [(littleEndian_bytesOfTexels page.texels).size_eq, valid.size_eq]
  · intro operation drops
    constructor
    · intro index
      rw [mem_transfers_drop_iff drops, (tracks index).held_iff, Option.map_eq_some_iff]
      exact and_iff_left rfl
    · intro transfer sent
      exact ⟨_, ((mem_transfers_drop_iff drops transfer).mp sent).2⟩
  · refine ⟨_, atlas.flush_outcome, atlas.flush_uploads_iff, ?_, atlas.transfers_flush_again⟩
    rw [flush_outcome, transfers_flush_again]
    rfl

/-- The first page is uploaded, filled and uploaded again, dropped and restored; after a clearing another
one takes its position, is uploaded, and is filled once more. -/
def busyTransfers : List Operation :=
  [.getOrCreate ⟨1⟩ (.packed 1 1 #[7]) .shared, .flush, .getOrCreate ⟨2⟩ sampleImage .shared, .flush,
    .free ⟨1⟩, .flush, .dropBitmaps, .flush, .clear, .getOrCreate ⟨1⟩ sampleImage .shared, .flush,
    .getOrCreate ⟨1⟩ (.packed 1 1 #[7]) .shared, .getOrCreate ⟨3⟩ (.packed 1 1 #[7]) .shared]

theorem transfers_follow_protocol_sample :
    let first := empty sampleSettings
    ofSettings sampleSettings = .ok first ∧
      first.traceAt 0 busyTransfers = [.filled, .uploaded, .filled, .uploaded, .released, .uploaded,
        .released, .filled, .uploaded, .filled] ∧
      Trace.lastCall? [.filled, .uploaded, .filled, .uploaded] = some .uploaded ∧
      Event.filled ∈ [Event.filled] ∧
      (first.traceAt 0 busyTransfers).lastCall? = some .uploaded ∧
      .release 0 ∈ ((first.after busyTransfers).perform .clear).transfers ∧
      ((first.after busyTransfers).perform .flush).outcome = .ok (.flushed true) ∧
      (∃ index size bytes page,
        .upload index size bytes ∈ ((first.after busyTransfers).perform .flush).transfers ∧
        (first.after busyTransfers).page? index = some page ∧ size = page.size ∧
        bytes.size = 4 * (page.size.width * page.size.height)) ∧
      (((first.after busyTransfers).perform .flush).atlas.perform .flush).outcome =
        .ok (.flushed false) := by
  intro first
  have success : ofSettings sampleSettings = .ok first := rfl
  obtain ⟨released, refilled, sized, dropped, any, flushed, any_iff, again, _⟩ :=
    transfers_follow_protocol success busyTransfers
  have trace_eq : first.traceAt 0 busyTransfers = [.filled, .uploaded, .filled, .uploaded, .released,
      .uploaded, .released, .filled, .uploaded, .filled] := by decide +kernel
  have last : (first.traceAt 0 busyTransfers).lastCall? = some .uploaded := by
    rw [trace_eq]
    decide
  have uploads : ((first.after busyTransfers).perform .flush).outcome = .ok (.flushed true) := by
    decide +kernel
  cases flushed.symm.trans uploads
  obtain ⟨index, size, bytes, sent⟩ := any_iff.mp rfl
  obtain ⟨page, found, size_eq, bytes_eq⟩ := sized .flush index size bytes sent
  refine ⟨success, trace_eq, ?_, ?_, last, ?_, uploads, ?_, again⟩
  · exact released 0 _ _ trace_eq
  · exact refilled 0 [.filled] [.filled] _ trace_eq (by decide)
  · exact ((dropped .clear (Or.inl rfl)).1 0).mpr last
  · exact ⟨index, size, bytes, page, sent, found, size_eq, bytes_eq⟩

end TextureAtlas.Atlas
