import TextureAtlas.Proofs.Atlas.Pages
import TextureAtlas.Proofs.Atlas.Utilization

/-! # Faults

A reachable atlas keeps all the promises that a fault would be the breach of: the pages are valid, the
rows use the spans of the table, and the numbers stay in their ranges. What is left is the registry,
which faults when two labels claim one id. -/
set_option autoImplicit false

namespace TextureAtlas

theorem LabelRegistry.claim_eq_error_iff {registry : LabelRegistry} {id : FragmentId}
    {label : String} {fault : Fault} :
    (registry.claim id label).1 = .error fault ↔
      ∃ known, registry.labels.get? id = some known ∧ known ≠ label ∧
        fault = .collision id known label := by
  simp only [claim]
  cases claimed : registry.labels.get? id with
  | none => simp
  | some known =>
    by_cases same : known = label
    · simp [same]
    · dsimp only
      rw [if_neg same, Except.error.injEq, eq_comm]
      simp [same]

/-- The outcome is an answer, be it a rejection. -/
def Faultless {α : Type} (outcome : Except Failure α) : Prop := ∀ fault, outcome ≠ .error (.fault fault)

namespace Faultless

variable {α : Type}

theorem ok (value : α) : Faultless (.ok value) := fun _ fails => nomatch fails

theorem rejected (error : Error) : Faultless (.error (.rejected error) : Except Failure α) :=
  fun _ fails => nomatch fails

theorem not_fault {outcome : Except Failure α} (faultless : Faultless outcome) (fault : Fault)
    {raised : Prop} (never : ¬ raised) : outcome = .error (.fault fault) ↔ raised :=
  iff_of_false (faultless fault) never

end Faultless

namespace Atlas

variable {atlas : Atlas}

theorem Locates.faultless {eligible : Page → Bool} {image : Image} {floor : Size} {dedicated : Bool}
    {reply : Reply (Nat × Placement)}
    (locates : Locates eligible atlas image floor dedicated reply) : Faultless reply.outcome := by
  cases locates with
  | onPage => exact .ok _
  | elsewhere all opens =>
    cases opens with
    | tooLarge | usedUp => exact .rejected _
    | opened => exact .ok _

theorem getOrCreateAmong_faultless (eligible : Page → Bool)
    (valid : ∀ page ∈ atlas.pages, page.Valid) (id : FragmentId) (image : Image)
    (allocation : Allocation) :
    Faultless (atlas.getOrCreateAmong eligible id image allocation).outcome := by
  rcases getOrCreateAmong_cases eligible valid id image allocation with
    ⟨fragment, _, result⟩ | ⟨_, creates⟩
  · rw [result]
    exact .ok fragment
  · generalize atlas.getOrCreateAmong eligible id image allocation = reply at creates ⊢
    cases creates with
    | invalid refused => exact .rejected _
    | nowhere validated locates =>
      intro fault raised
      cases raised
      exact locates.faultless fault rfl
    | placed validated locates => exact .ok _

/-- The registry alone can fault, and its faults come through. -/
theorem getOrCreateNamedAmong_eq_fault_iff (eligible : Page → Bool)
    (valid : ∀ page ∈ atlas.pages, page.Valid) (label : String) (image : Image)
    (allocation : Allocation) (fault : Fault) :
    (atlas.getOrCreateNamedAmong eligible label image allocation).outcome = .error (.fault fault) ↔
      ∃ registry, atlas.registry = some registry ∧
        (registry.claim (.ofLabel label) label).1 = .error fault := by
  rcases atlas.getOrCreateNamedAmong_cases eligible label image allocation with
    ⟨registry, raised, registered, claimed, result⟩ | ⟨accepted, registry, result⟩
  · simp only [result, registered, Option.some.injEq, exists_eq_left', claimed, Except.error.injEq,
      Failure.fault.injEq]
  · have faultless := @getOrCreateAmong_faultless { atlas with registry } eligible valid (.ofLabel label)
      image allocation
    rw [result]
    refine faultless.not_fault fault ?_
    rintro ⟨known, registered, claimed⟩
    exact accepted known fault registered claimed

/-- Freeing gives back what the table holds: the page is there, and its row uses the span. -/
theorem Sound.free_outcome (sound : atlas.Sound) (id : FragmentId) :
    (atlas.free id).outcome = .ok (atlas.get? id) := by
  cases live : atlas.get? id with
  | none => simp only [free, live]
  | some fragment =>
    obtain ⟨page, next, found, _, removed⟩ := sound.ready.remove_of_live live
    simp only [free, live, found, removed]

/-- No operation on a reachable atlas faults, but the creation under a label whose id another label has
claimed before. Nor does the utilization, on as many pages as may be. -/
theorem faults_only_of_labels (reachable : atlas.Reachable) :
    (∀ (operation : Operation) (fault : Fault),
      (atlas.perform operation).outcome = .error (.fault fault) ↔
        ∃ label image allocation registry known,
          operation = .getOrCreateNamed label image allocation ∧ atlas.registry = some registry ∧
          registry.labels.get? (.ofLabel label) = some known ∧ known ≠ label ∧
          fault = .collision (.ofLabel label) known label) ∧
      (atlas.pageCount ≤ mostPages → ∃ percent, atlas.utilization = .ok percent) := by
  have sound := reachable.sound
  constructor
  · intro operation fault
    cases operation with
    | getOrCreateNamed label image allocation =>
      rw [perform, performAmong, Reply.map_eq_error_iff,
        getOrCreateNamedAmong_eq_fault_iff Page.isOpen sound.page_valid]
      simp only [LabelRegistry.claim_eq_error_iff]
      constructor
      · rintro ⟨registry, registered, known, claimed, differs, raised⟩
        exact ⟨label, image, allocation, registry, known, rfl, registered, claimed, differs, raised⟩
      · rintro ⟨_, _, _, registry, known, same, registered, claimed, differs, raised⟩
        cases same
        exact ⟨registry, registered, known, claimed, differs, raised⟩
    | getOrCreate id image allocation =>
      rw [perform, performAmong, Reply.map_eq_error_iff]
      have faultless := getOrCreateAmong_faultless Page.isOpen sound.page_valid id image allocation
      exact faultless.not_fault fault (by simp)
    | free id =>
      rw [perform, performAmong, Reply.map_eq_error_iff, sound.free_outcome]
      exact (Faultless.ok _).not_fault fault (by simp)
    | setPageSize size =>
      refine Faultless.not_fault ?_ fault (by simp)
      simp only [perform, performAmong]
      rcases atlas.setPageSize_cases size with ⟨error, _, result⟩ | ⟨_, result⟩ <;> rw [result]
      · exact .rejected error
      · exact .ok _
    | clear | flush | dropBitmaps | setPageLimit | setRegistry =>
      exact (Faultless.ok _).not_fault fault (by simp)
  · intro few
    exact ⟨_, (sound.utilization_eq few).1⟩

/-- The sample, with a registry in which the id of the empty label is taken. -/
def registered : Atlas := sample.setRegistry ⟨Table.empty.insert ⟨0⟩ "nameless"⟩

theorem registered_reachable : registered.Reachable :=
  sample_reachable.after [.setRegistry ⟨Table.empty.insert ⟨0⟩ "nameless"⟩]

theorem faults_only_of_labels_registered :
    registered.Reachable ∧
      (registered.perform (.getOrCreateNamed "" sampleImage .shared)).outcome =
        .error (.fault (.collision ⟨0⟩ "nameless" "")) ∧
      (∀ fault, (registered.perform (.free ⟨2⟩)).outcome ≠ .error (.fault fault)) ∧
      registered.pageCount ≤ mostPages ∧ ∃ percent, registered.utilization = .ok percent := by
  obtain ⟨faults, utilization⟩ := faults_only_of_labels registered_reachable
  have few : registered.pageCount ≤ mostPages := by decide +kernel
  refine ⟨registered_reachable, ?_, ?_, few, utilization few⟩
  · exact (faults _ _).mpr ⟨"", sampleImage, .shared, _, "nameless", rfl, rfl, rfl, by decide, rfl⟩
  · intro fault raised
    obtain ⟨_, _, _, _, _, same, _⟩ := (faults _ _).mp raised
    cases same

end Atlas
end TextureAtlas
