import TextureAtlas.Proofs.Atlas.Layout
import TextureAtlas.Proofs.Atlas.Skipping
import TextureAtlas.Renderer.Bitmaps

/-! # What the packing does not see

A session is an atlas together with its renderer, which gets the transfers and which the owner may change
as well. Two sessions ask for the same packing if they make the same calls in the same order, up to the
texels and strides of the images, and up to calls that concern the renderer only, made anywhere. They
then get the same answers, and their atlases have the same layout throughout. -/
set_option autoImplicit false

namespace TextureAtlas

/-- The same request, but for the texels and the stride of the image. -/
inductive Operation.Alike : Operation → Operation → Prop
  | getOrCreate (id : FragmentId) {image other : Image} (images : image.Alike other)
      (allocation : Allocation) : Alike (.getOrCreate id image allocation) (.getOrCreate id other allocation)
  | getOrCreateNamed (label : String) {image other : Image} (images : image.Alike other)
      (allocation : Allocation) :
      Alike (.getOrCreateNamed label image allocation) (.getOrCreateNamed label other allocation)
  | free (id : FragmentId) : Alike (.free id) (.free id)
  | clear : Alike .clear .clear
  | setPageLimit (limit : Nat) : Alike (.setPageLimit limit) (.setPageLimit limit)
  | setPageSize (size : Size) : Alike (.setPageSize size) (.setPageSize size)
  | setRegistry (registry : LabelRegistry) : Alike (.setRegistry registry) (.setRegistry registry)

namespace Atlas

theorem setPageSize_alike {atlas other : Atlas} (same : atlas.layout = other.layout) (size : Size) :
    (atlas.perform (.setPageSize size)).Alike (other.perform (.setPageSize size)) := by
  obtain ⟨settings_eq, pages_same, fragments_eq, registry_eq⟩ := layout_eq_iff.mp same
  simp only [perform, performAmong, setPageSize, settings_eq]
  cases Settings.validate { other.settings with pageSize := size } with
  | error error => exact ⟨rfl, rfl, same⟩
  | ok done => exact ⟨rfl, rfl, layout_eq_iff.mpr ⟨rfl, pages_same, fragments_eq, registry_eq⟩⟩

theorem perform_alike {atlas other : Atlas} (same : atlas.layout = other.layout)
    (valid : ∀ page ∈ atlas.pages, page.Valid) (other_valid : ∀ page ∈ other.pages, page.Valid)
    {operation operation' : Operation} (alike : operation.Alike operation') :
    (atlas.perform operation).Alike (other.perform operation') := by
  obtain ⟨settings_eq, pages_same, fragments_eq, registry_eq⟩ := layout_eq_iff.mp same
  cases alike with
  | getOrCreate id images allocation =>
    exact (getOrCreateAmong_alike same images valid other_valid id allocation).map _
  | getOrCreateNamed label images allocation =>
    exact (getOrCreateNamedAmong_alike same images valid other_valid label allocation).map _
  | free id => exact (free_alike same id).map _
  | clear => exact (clear_alike same).map _
  | setPageLimit limit =>
    refine ⟨rfl, rfl, layout_eq_iff.mpr ⟨?_, pages_same, fragments_eq, registry_eq⟩⟩
    exact congrArg (fun settings : Settings => { settings with pageLimit := limit }) settings_eq
  | setPageSize size => exact setPageSize_alike same size
  | setRegistry registry =>
    exact ⟨rfl, rfl, layout_eq_iff.mpr ⟨settings_eq, pages_same, fragments_eq, rfl⟩⟩

end Atlas

/-! ## Sessions -/

/-- Something is asked of the atlas, or the renderer is changed behind its back. -/
inductive Call (ρ : Type)
  | ask (operation : Operation)
  | meddle (change : ρ → ρ)

/-- What is asked, if it is for the packing and not for the renderer. -/
def Call.packing? {ρ : Type} : Call ρ → Option Operation
  | .ask .flush | .ask .dropBitmaps | .meddle _ => none
  | .ask operation => some operation

structure Session (ρ : Type) where
  atlas : Atlas
  renderer : ρ

/-- What is to be seen of the packing after an operation. -/
structure Observation where
  outcome : Except Failure Answer
  journal : List Record
  layout : Atlas.Layout
  utilization : Except Fault Nat

def Reply.observation (reply : Reply Answer) : Observation :=
  ⟨reply.outcome, reply.journal, reply.atlas.layout, reply.atlas.utilization⟩

theorem Reply.Alike.observation_eq {reply other : Reply Answer} (alike : reply.Alike other) :
    reply.observation = other.observation := by
  simp only [observation, alike.outcome_eq, alike.journal_eq, alike.layout_eq,
    Atlas.utilization_eq_of_layout_eq alike.layout_eq]

namespace Session

variable {ρ : Type} (receive : ρ → Transfer → ρ)

/-- The call is made; the renderer gets the transfers one by one. -/
def next (session : Session ρ) : Call ρ → Session ρ
  | .ask operation =>
    let reply := session.atlas.perform operation
    ⟨reply.atlas, reply.transfers.foldl receive session.renderer⟩
  | .meddle change => { session with renderer := change session.renderer }

def after (session : Session ρ) (calls : List (Call ρ)) : Session ρ := calls.foldl (next receive) session

/-- What is seen after each of the calls that are for the packing. -/
def observations (session : Session ρ) : List (Call ρ) → List Observation
  | [] => []
  | call :: calls =>
    match call.packing? with
    | some operation =>
      (session.atlas.perform operation).observation :: observations (session.next receive call) calls
    | none => observations (session.next receive call) calls

end Session

/-- A call is for the renderer, or it asks for something that is alike to itself. -/
theorem Call.packing?_cases {ρ : Type} (call : Call ρ) :
    call.packing? = none ∨ ∃ operation, call = .ask operation ∧ call.packing? = some operation ∧
      operation.Alike operation := by
  cases call with
  | meddle change => exact Or.inl rfl
  | ask operation =>
    cases operation with
    | flush | dropBitmaps => exact Or.inl rfl
    | getOrCreate id image allocation =>
      exact Or.inr ⟨_, rfl, rfl, .getOrCreate id (.refl image) allocation⟩
    | getOrCreateNamed label image allocation =>
      exact Or.inr ⟨_, rfl, rfl, .getOrCreateNamed label (.refl image) allocation⟩
    | free id => exact Or.inr ⟨_, rfl, rfl, .free id⟩
    | clear => exact Or.inr ⟨_, rfl, rfl, .clear⟩
    | setPageLimit limit => exact Or.inr ⟨_, rfl, rfl, .setPageLimit limit⟩
    | setPageSize size => exact Or.inr ⟨_, rfl, rfl, .setPageSize size⟩
    | setRegistry registry => exact Or.inr ⟨_, rfl, rfl, .setRegistry registry⟩

namespace Session

variable {ρ : Type} {receive : ρ → Transfer → ρ}

theorem next_layout {session : Session ρ} {call : Call ρ} (silent : call.packing? = none) :
    (session.next receive call).atlas.layout = session.atlas.layout := by
  cases call with
  | meddle change => rfl
  | ask asked =>
    cases asked with
    | flush => exact session.atlas.flush_layout
    | dropBitmaps => exact session.atlas.dropBitmaps_layout
    | getOrCreate | getOrCreateNamed | free | clear | setPageLimit | setPageSize | setRegistry =>
      cases silent

theorem next_reachable {session : Session ρ} (reachable : session.atlas.Reachable) (call : Call ρ) :
    (session.next receive call).atlas.Reachable := by
  cases call with
  | meddle change => exact reachable
  | ask operation => exact reachable.after [operation]

/-- A session is seen as the history of its calls for the packing, started at the same layout. -/
theorem observations_eq {session : Session ρ} (reachable : session.atlas.Reachable) {atlas : Atlas}
    (atlas_reachable : atlas.Reachable) (same : session.atlas.layout = atlas.layout)
    (calls : List (Call ρ)) :
    session.observations receive calls =
        (atlas.repliesAmong Page.isOpen (calls.filterMap Call.packing?)).map Reply.observation ∧
      (session.after receive calls).atlas.layout =
        (atlas.after (calls.filterMap Call.packing?)).layout := by
  induction calls generalizing session atlas with
  | nil => exact ⟨rfl, same⟩
  | cons call calls ih =>
    have next_reachable := @next_reachable ρ receive session reachable call
    rcases call.packing?_cases with silent | ⟨operation, rfl, packs, itself⟩
    · simp only [observations, silent, List.filterMap_cons]
      exact ih next_reachable atlas_reachable ((next_layout silent).trans same)
    · have alike := Atlas.perform_alike same reachable.sound.page_valid
        atlas_reachable.sound.page_valid itself
      obtain ⟨observed, final⟩ := ih next_reachable (atlas_reachable.after [operation]) alike.layout_eq
      simp only [observations, packs, List.filterMap_cons]
      exact ⟨List.cons_eq_cons.mpr ⟨alike.observation_eq, observed⟩, final⟩

end Session

/-- Histories of alike operations are seen alike. -/
theorem Atlas.observations_eq_of_alike {atlas other : Atlas} (reachable : atlas.Reachable)
    (other_reachable : other.Reachable) (same : atlas.layout = other.layout)
    {history history' : List Operation} (alike : List.Forall₂ Operation.Alike history history') :
    (atlas.repliesAmong Page.isOpen history).map Reply.observation =
        (other.repliesAmong Page.isOpen history').map Reply.observation ∧
      (atlas.after history).layout = (other.after history').layout := by
  induction alike generalizing atlas other with
  | nil => exact ⟨rfl, same⟩
  | @cons operation operation' history history' first rest ih =>
    have alike := perform_alike same reachable.sound.page_valid other_reachable.sound.page_valid first
    obtain ⟨observed, final⟩ := ih (reachable.after [operation]) (other_reachable.after [operation'])
      alike.layout_eq
    exact ⟨List.cons_eq_cons.mpr ⟨alike.observation_eq, observed⟩, final⟩

namespace Session

/-- Sessions that start with the same settings and ask for the same packing get the same answers, and
their atlases have the same layout and utilization after each call and in the end. -/
theorem packing_noninterference {ρ ρ' : Type} (receive : ρ → Transfer → ρ)
    (receive' : ρ' → Transfer → ρ') {settings : Settings} {first : Atlas}
    (success : Atlas.ofSettings settings = .ok first) (renderer : ρ) (renderer' : ρ')
    {calls : List (Call ρ)} {calls' : List (Call ρ')}
    (alike : List.Forall₂ Operation.Alike (calls.filterMap Call.packing?)
      (calls'.filterMap Call.packing?)) :
    observations receive ⟨first, renderer⟩ calls = observations receive' ⟨first, renderer'⟩ calls' ∧
      (after receive ⟨first, renderer⟩ calls).atlas.layout =
        (after receive' ⟨first, renderer'⟩ calls').atlas.layout ∧
      (after receive ⟨first, renderer⟩ calls).atlas.utilization =
        (after receive' ⟨first, renderer'⟩ calls').atlas.utilization := by
  have reachable := Atlas.reachable_of_ofSettings success
  obtain ⟨observed, final⟩ :=
    @observations_eq ρ receive ⟨first, renderer⟩ reachable first reachable rfl calls
  obtain ⟨observed', final'⟩ :=
    @observations_eq ρ' receive' ⟨first, renderer'⟩ reachable first reachable rfl calls'
  obtain ⟨histories_observed, histories_final⟩ :=
    Atlas.observations_eq_of_alike reachable reachable rfl alike
  have layout_eq := final.trans (histories_final.trans final'.symm)
  exact ⟨observed.trans (histories_observed.trans observed'.symm), layout_eq,
    Atlas.utilization_eq_of_layout_eq layout_eq⟩

/-- Two fragments are placed, and the first is freed. -/
def plainCalls : List (Call Bitmaps) :=
  [.ask (.getOrCreate ⟨1⟩ (.packed 1 1 #[7]) .shared),
    .ask (.getOrCreate ⟨2⟩ (.packed 2 1 #[8, 9]) .shared),
    .ask (.free ⟨1⟩)]

/-- The same with windows of larger images, and a renderer that counts what it gets and is tampered with. -/
def busyCalls : List (Call Nat) :=
  [.ask .dropBitmaps,
    .ask (.getOrCreate ⟨1⟩ ⟨1, 1, 5, #[3, 4, 5, 6, 7]⟩ .shared),
    .ask .flush,
    .meddle fun _ => 0,
    .ask (.getOrCreate ⟨2⟩ ⟨2, 1, 3, #[1, 2, 3]⟩ .shared),
    .ask .flush,
    .ask (.free ⟨1⟩)]

theorem packing_noninterference_busy :
    let first := Atlas.empty Atlas.sampleSettings
    let plain := after Bitmaps.receive ⟨first, .empty⟩ plainCalls
    let busy := after (fun count _ => count + 1) ⟨first, 0⟩ busyCalls
    Atlas.ofSettings Atlas.sampleSettings = .ok first ∧
      List.Forall₂ Operation.Alike (plainCalls.filterMap Call.packing?)
        (busyCalls.filterMap Call.packing?) ∧
      plain.atlas.pages.map Page.texels ≠ busy.atlas.pages.map Page.texels ∧
      plain.atlas.pages.map Page.dirty = [true] ∧ busy.atlas.pages.map Page.dirty = [false] ∧
      plain.atlas.layout = busy.atlas.layout ∧ plain.atlas.utilization = busy.atlas.utilization := by
  have success : Atlas.ofSettings Atlas.sampleSettings = .ok (.empty Atlas.sampleSettings) := rfl
  have single : Image.Alike (.packed 1 1 #[7]) ⟨1, 1, 5, #[3, 4, 5, 6, 7]⟩ :=
    Image.alike_of_valid (by decide) (by decide) rfl
  have pair : Image.Alike (.packed 2 1 #[8, 9]) ⟨2, 1, 3, #[1, 2, 3]⟩ :=
    Image.alike_of_valid (by decide) (by decide) rfl
  have alike : List.Forall₂ Operation.Alike (plainCalls.filterMap Call.packing?)
      (busyCalls.filterMap Call.packing?) :=
    .cons (.getOrCreate ⟨1⟩ single .shared) (.cons (.getOrCreate ⟨2⟩ pair .shared)
      (.cons (.free ⟨1⟩) .nil))
  obtain ⟨_, layout_eq, utilization_eq⟩ :=
    packing_noninterference Bitmaps.receive (fun count _ => count + 1) success .empty 0 alike
  exact ⟨success, alike, by decide +kernel, by decide +kernel, by decide +kernel, layout_eq,
    utilization_eq⟩

end Session
end TextureAtlas
