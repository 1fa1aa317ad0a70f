import Mathlib.Data.Set.Function
import TextureAtlas.Proofs.Atlas.Faults

/-! # Labels

A registry binds an id to the first label that was recorded under it (`get?_hearAll`), and nothing that
an atlas does makes it forget one (`registry_after`). The registry has no part in how a fragment is created
(`getOrCreateAmong_withRegistry`), so a named creation is refused for another first label, or it is the
creation under the id. -/
set_option autoImplicit false

namespace TextureAtlas

/-! ## The first label wins -/

namespace LabelRegistry

variable {registry : LabelRegistry} {id : FragmentId} {label : String}

/-- The registry after a claim, which may have failed. -/
def hear (registry : LabelRegistry) (claim : FragmentId × String) : LabelRegistry :=
  (registry.claim claim.1 claim.2).2

def hearAll (registry : LabelRegistry) (claims : List (FragmentId × String)) : LabelRegistry :=
  claims.foldl hear registry

theorem claim_ok_or_error (registry : LabelRegistry) (id : FragmentId) (label : String) :
    registry.claim id label = (.ok (), registry.hear (id, label)) ∨
      ∃ fault, registry.claim id label = (.error fault, registry) ∧
        registry.hear (id, label) = registry := by
  rcases registry.claim_cases id label with ⟨fault, refused⟩ | ⟨next, claimed⟩
  · exact Or.inr ⟨fault, refused, congrArg Prod.snd refused⟩
  · left
    rw [hear, claimed]

theorem claim_eq_ok_iff {next : LabelRegistry} :
    registry.claim id label = (.ok (), next) ↔
      registry.labels.get? id = none ∧ next = ⟨registry.labels.insert id label⟩ ∨
        registry.labels.get? id = some label ∧ next = registry := by
  simp only [claim]
  cases registry.labels.get? id with
  | none => simp [eq_comm]
  | some known =>
    by_cases same : known = label
    · simp [same, eq_comm]
    · simp [same]

theorem get?_of_claim_eq_ok {next : LabelRegistry}
    (claimed : registry.claim id label = (.ok (), next)) (other : FragmentId) :
    next.labels.get? other = if other = id then some label else registry.labels.get? other := by
  rcases claim_eq_ok_iff.mp claimed with ⟨_, rfl⟩ | ⟨known, rfl⟩
  · by_cases same : other = id
    · rw [if_pos same, same, Table.get?_insert_self]
    · rw [if_neg same, Table.get?_insert_of_ne _ label same]
  · by_cases same : other = id
    · rw [if_pos same, same, known]
    · rw [if_neg same]

/-- An id that has a label keeps it. -/
theorem get?_hear (registry : LabelRegistry) (id : FragmentId) (label : String) (other : FragmentId) :
    (registry.hear (id, label)).labels.get? other =
      (registry.labels.get? other).or (if id = other then some label else none) := by
  rcases registry.claim_ok_or_error id label with claimed | ⟨fault, refused, unchanged⟩
  · rw [get?_of_claim_eq_ok claimed]
    by_cases same : id = other
    · subst same
      rcases claim_eq_ok_iff.mp claimed with ⟨known, _⟩ | ⟨known, _⟩ <;> simp [known]
    · rw [if_neg (Ne.symm same), if_neg same, Option.or_none]
  · rw [unchanged]
    by_cases same : id = other
    · obtain ⟨first, known, _⟩ := claim_eq_error_iff.mp (congrArg Prod.fst refused)
      rw [← same, known, Option.some_or]
    · rw [if_neg same, Option.or_none]

theorem get?_hearAll (registry : LabelRegistry) (claims : List (FragmentId × String))
    (id : FragmentId) :
    (registry.hearAll claims).labels.get? id =
      (registry.labels.get? id).or (Table.valueOf id claims) := by
  induction claims generalizing registry with
  | nil => simp [hearAll, Table.valueOf]
  | cons claim claims ih =>
    have later := ih (registry.hear claim)
    rw [get?_hear, Option.or_assoc] at later
    by_cases same : claim.1 = id
    · simpa [hearAll, Table.valueOf, same] using later
    · simpa [hearAll, Table.valueOf, same] using later

end LabelRegistry

theorem Table.valueOf_append {κ α : Type} [DecidableEq κ] (key : κ) (entries more : List (κ × α)) :
    Table.valueOf key (entries ++ more) =
      (Table.valueOf key entries).or (Table.valueOf key more) := by
  induction entries with
  | nil => rfl
  | cons entry entries ih =>
    by_cases same : entry.1 = key
    · simp [Table.valueOf, same]
    · simpa [Table.valueOf, same] using ih

/-- The label that the operation has checked, with its id. -/
def Operation.naming? : Operation → Option (FragmentId × String)
  | .getOrCreateNamed label _ _ => some (.ofLabel label, label)
  | .getOrCreate .. | .free _ | .clear | .flush | .dropBitmaps | .setPageLimit _ | .setPageSize _
  | .setRegistry _ => none

/-! ## The registry apart -/

/-- The same reply from an atlas with another registry. -/
def Reply.withRegistry {α : Type} (reply : Reply α) (registry : Option LabelRegistry) : Reply α :=
  { reply with atlas := { reply.atlas with registry } }

namespace Atlas

variable {atlas : Atlas}

theorem openPage_withRegistry (atlas : Atlas) (registry : Option LabelRegistry) (size : Size)
    (dedicated : Bool) (image : Image) :
    { atlas with registry }.openPage size dedicated image =
      (atlas.openPage size dedicated image).withRegistry registry := by
  have same : pagesUsedUp { atlas with registry } = atlas.pagesUsedUp := rfl
  simp only [openPage, same]
  cases atlas.pagesUsedUp with
  | true => rfl
  | false =>
    cases Page.blank size atlas.settings.borderWidth dedicated with
    | error error => rfl
    | ok page =>
      dsimp only
      rcases page.insert image with ⟨_ | placement, next⟩ <;> rfl

theorem insertShared_withRegistry (eligible : Page → Bool) (atlas : Atlas)
    (registry : Option LabelRegistry) (image : Image) :
    insertShared eligible { atlas with registry } image =
      (atlas.insertShared eligible image).withRegistry registry := by
  obtain ⟨settings, pages, fragments, known⟩ := atlas
  simp only [insertShared]
  rcases insertFirst eligible image 0 pages with ⟨_ | _ | place, passed⟩
  · rfl
  · dsimp only
    cases pageSizeFor image settings.borderWidth settings.pageSize with
    | error failure => rfl
    | ok size =>
      exact openPage_withRegistry ⟨settings, passed, fragments, known⟩ registry size false image
  · rfl

theorem insertDedicated_withRegistry (atlas : Atlas) (registry : Option LabelRegistry)
    (image : Image) (minimum : Size) :
    insertDedicated { atlas with registry } image minimum =
      (atlas.insertDedicated image minimum).withRegistry registry := by
  simp only [insertDedicated]
  cases pageSizeFor image atlas.settings.borderWidth (atlas.settings.pageSize.max minimum) with
  | error failure => rfl
  | ok size => exact openPage_withRegistry atlas registry size true image

theorem create_withRegistry (eligible : Page → Bool) (atlas : Atlas)
    (registry : Option LabelRegistry) (id : FragmentId) (image : Image) (allocation : Allocation) :
    create eligible { atlas with registry } id image allocation =
      (atlas.create eligible id image allocation).withRegistry registry := by
  simp only [create]
  cases image.validate with
  | error error => rfl
  | ok done =>
    cases allocation with
    | shared =>
      simp only [insertShared_withRegistry]
      rcases atlas.insertShared eligible image with ⟨_ | place, journal, transfers, next⟩ <;> rfl
    | dedicated minimum =>
      simp only [insertDedicated_withRegistry]
      rcases atlas.insertDedicated image minimum with ⟨_ | place, journal, transfers, next⟩ <;> rfl

/-- The registry is carried along and not looked at. -/
theorem getOrCreateAmong_withRegistry (eligible : Page → Bool) (atlas : Atlas)
    (registry : Option LabelRegistry) (id : FragmentId) (image : Image) (allocation : Allocation) :
    { atlas with registry }.getOrCreateAmong eligible id image allocation =
      (atlas.getOrCreateAmong eligible id image allocation).withRegistry registry := by
  have same : get? { atlas with registry } id = atlas.get? id := rfl
  simp only [getOrCreateAmong, same]
  cases atlas.get? id with
  | some fragment => rfl
  | none => exact create_withRegistry eligible atlas registry id image allocation

theorem getOrCreateAmong_registry (eligible : Page → Bool) (atlas : Atlas) (id : FragmentId)
    (image : Image) (allocation : Allocation) :
    (atlas.getOrCreateAmong eligible id image allocation).atlas.registry = atlas.registry :=
  congrArg (·.atlas.registry)
    (getOrCreateAmong_withRegistry eligible atlas atlas.registry id image allocation)

theorem getOrCreateNamedAmong_of_registered (eligible : Page → Bool) {registry : LabelRegistry}
    (registered : atlas.registry = some registry) (label : String) (image : Image)
    (allocation : Allocation) :
    (registry.claim (.ofLabel label) label = (.ok (), registry.hear (.ofLabel label, label)) ∧
      atlas.getOrCreateNamedAmong eligible label image allocation =
        (atlas.getOrCreateAmong eligible (.ofLabel label) image allocation).withRegistry
          (some (registry.hear (.ofLabel label, label)))) ∨
    ∃ fault, registry.claim (.ofLabel label) label = (.error fault, registry) ∧
      registry.hear (.ofLabel label, label) = registry ∧
      atlas.getOrCreateNamedAmong eligible label image allocation =
        { outcome := .error (.fault fault), atlas } := by
  simp only [getOrCreateNamedAmong, registered]
  rcases registry.claim_ok_or_error (.ofLabel label) label with
    claimed | ⟨fault, refused, unchanged⟩
  · simp only [claimed, getOrCreateAmong_withRegistry, true_and, true_or]
  · refine Or.inr ⟨fault, refused, unchanged, ?_⟩
    simp only [refused, ← registered]

/-! ## A run of operations -/

/-- What an operation leaves in a registry is what it has it check. -/
theorem registry_perform {registry : LabelRegistry} (registered : atlas.registry = some registry)
    (operation : Operation) (kept : ∀ other, operation ≠ .setRegistry other) :
    (atlas.perform operation).atlas.registry =
      some (registry.hearAll operation.naming?.toList) := by
  cases operation with
  | getOrCreate id image allocation =>
    exact (getOrCreateAmong_registry Page.isOpen atlas id image allocation).trans registered
  | getOrCreateNamed label image allocation =>
    simp only [perform, performAmong, Reply.map]
    rcases getOrCreateNamedAmong_of_registered Page.isOpen registered label image allocation with
      ⟨_, result⟩ | ⟨fault, _, unchanged, result⟩
    · rw [result]
      rfl
    · rw [result]
      exact registered.trans (congrArg some unchanged.symm)
  | free id =>
    simp only [perform, performAmong, Reply.map]
    have frees := atlas.free_frees id
    generalize atlas.free id = reply at frees ⊢
    cases frees <;> exact registered
  | setPageSize size =>
    obtain ⟨_, settings, _, result⟩ := performAmong_setPageSize Page.isOpen atlas size
    rw [perform, result]
    exact registered
  | clear | flush | dropBitmaps | setPageLimit _ => exact registered
  | setRegistry other => exact absurd rfl (kept other)

theorem registry_after {registry : LabelRegistry} (registered : atlas.registry = some registry)
    {later : List Operation} (kept : ∀ other, Operation.setRegistry other ∉ later) :
    (atlas.after later).registry =
      some (registry.hearAll (later.filterMap Operation.naming?)) := by
  induction later generalizing atlas registry with
  | nil => exact registered
  | cons operation later ih =>
    have step := registry_perform registered operation fun other same =>
      kept other (same ▸ List.mem_cons_self)
    have run := ih step fun other member => kept other (List.mem_cons_of_mem operation member)
    rw [List.filterMap_cons]
    cases named : operation.naming? with
    | none =>
      rw [named] at run
      exact run
    | some claim =>
      rw [named] at run
      exact run

/-- The first label that was recorded under the id, by the registry before it was set or by a named
creation of the run. Those that were refused do no harm here: each comes after another with its id. -/
def firstLabel (claims : List (FragmentId × String)) (run : List Operation) (id : FragmentId) :
    Option String :=
  Table.valueOf id (claims ++ run.filterMap Operation.naming?)

/-- The labels of the named creations that did not fault, whatever their outcome. -/
def labelsThrough (first : Atlas) (run : List Operation) : Set String :=
  {label | ∃ before image allocation rest,
    run = before ++ .getOrCreateNamed label image allocation :: rest ∧
      Faultless ((first.after before).getOrCreateNamed label image allocation).outcome}

theorem registry_after_set (atlas : Atlas) (claims : List (FragmentId × String))
    {later : List Operation} (kept : ∀ other, Operation.setRegistry other ∉ later) :
    ∃ registry,
      ((atlas.setRegistry (LabelRegistry.empty.hearAll claims)).after later).registry = some registry ∧
        ∀ id, registry.labels.get? id = firstLabel claims later id := by
  refine ⟨_, registry_after rfl kept, fun id => ?_⟩
  rw [LabelRegistry.get?_hearAll, LabelRegistry.get?_hearAll, firstLabel, Table.valueOf_append]
  rfl

theorem getOrCreateNamed_eq_fault_iff (valid : ∀ page ∈ atlas.pages, page.Valid)
    {registry : LabelRegistry} (registered : atlas.registry = some registry) (label : String)
    (image : Image) (allocation : Allocation) (fault : Fault) :
    (atlas.getOrCreateNamed label image allocation).outcome = .error (.fault fault) ↔
      ∃ known, registry.labels.get? (.ofLabel label) = some known ∧ known ≠ label ∧
        fault = .collision (.ofLabel label) known label := by
  refine (getOrCreateNamedAmong_eq_fault_iff Page.isOpen valid label image allocation fault).trans ?_
  simp only [registered, Option.some.injEq, exists_eq_left', LabelRegistry.claim_eq_error_iff]

theorem getOrCreateNamed_of_fault (valid : ∀ page ∈ atlas.pages, page.Valid)
    {registry : LabelRegistry} (registered : atlas.registry = some registry) {label : String}
    {image : Image} {allocation : Allocation} {fault : Fault}
    (raised : (atlas.getOrCreateNamed label image allocation).outcome = .error (.fault fault)) :
    atlas.getOrCreateNamed label image allocation =
      { outcome := .error (.fault fault), atlas } := by
  rcases getOrCreateNamedAmong_of_registered Page.isOpen registered label image allocation with
    ⟨_, result⟩ | ⟨_, _, _, result⟩
  · have faultless := getOrCreateAmong_faultless Page.isOpen valid (.ofLabel label) image allocation
    exact absurd ((congrArg (·.outcome) result).symm.trans raised) (faultless fault)
  · cases (congrArg (·.outcome) result).symm.trans raised
    exact result

theorem getOrCreateNamed_of_faultless {registry : LabelRegistry}
    (registered : atlas.registry = some registry) {label : String} {image : Image}
    {allocation : Allocation}
    (faultless : Faultless (atlas.getOrCreateNamed label image allocation).outcome) :
    ∃ next, atlas.getOrCreateNamed label image allocation =
        (atlas.getOrCreate (.ofLabel label) image allocation).withRegistry (some next) ∧
      ∀ other, next.labels.get? other =
        if other = .ofLabel label then some label else registry.labels.get? other := by
  rcases getOrCreateNamedAmong_of_registered Page.isOpen registered label image allocation with
    ⟨claimed, result⟩ | ⟨fault, _, _, result⟩
  · exact ⟨_, result, LabelRegistry.get?_of_claim_eq_ok claimed⟩
  · exact absurd (congrArg (·.outcome) result) (faultless fault)

/-- A label that got through was the first under its id, and it stays that. -/
theorem Reachable.firstLabel_of_through (reachable : atlas.Reachable)
    {claims : List (FragmentId × String)} {later : List Operation}
    (kept : ∀ other, Operation.setRegistry other ∉ later) {label : String}
    (through : label ∈ (atlas.setRegistry (LabelRegistry.empty.hearAll claims)).labelsThrough later) :
    firstLabel claims later (.ofLabel label) = some label := by
  obtain ⟨before, image, allocation, rest, rfl, faultless⟩ := through
  have kept_before := fun other member => kept other (List.mem_append_left _ member)
  have valid := (reachable.after
    (.setRegistry (LabelRegistry.empty.hearAll claims) :: before)).sound.page_valid
  obtain ⟨registry, registered, recorded⟩ := registry_after_set atlas claims kept_before
  have split : firstLabel claims (before ++ .getOrCreateNamed label image allocation :: rest)
      (.ofLabel label) = (firstLabel claims before (.ofLabel label)).or (some label) := by
    simp only [firstLabel, List.filterMap_append, List.filterMap_cons, Operation.naming?,
      ← List.append_assoc, Table.valueOf_append _ (claims ++ _), Table.valueOf, if_true]
  rw [split]
  cases known : firstLabel claims before (.ofLabel label) with
  | none => rfl
  | some first =>
    by_contra differs
    have refused := (getOrCreateNamed_eq_fault_iff valid registered label image allocation _).mpr
      ⟨first, (recorded _).trans known, fun same => differs (congrArg some same), rfl⟩
    exact faultless _ refused

/-- From the setting of a registry on, a named creation faults exactly if the first label under its id is
another one, and then nothing changes. Else it is the creation under the id, and the label is recorded if
the id had none. So those labels that get through have different ids. -/
theorem first_label_decides (reachable : atlas.Reachable) (claims : List (FragmentId × String))
    {later : List Operation} (kept : ∀ other, Operation.setRegistry other ∉ later) :
    let start := atlas.setRegistry (LabelRegistry.empty.hearAll claims)
    let last := start.after later
    (∀ label image allocation,
      let id := FragmentId.ofLabel label
      let reply := last.getOrCreateNamed label image allocation
      ((∃ fault, reply.outcome = .error (.fault fault)) ↔
        ∃ known, firstLabel claims later id = some known ∧ known ≠ label) ∧
      (∀ fault, reply.outcome = .error (.fault fault) →
        reply = { outcome := .error (.fault fault), atlas := last }) ∧
      (Faultless reply.outcome → ∃ registry,
        reply = (last.getOrCreate id image allocation).withRegistry (some registry) ∧
          ∀ other, registry.labels.get? other =
            if other = id then some label else firstLabel claims later other)) ∧
    Set.InjOn FragmentId.ofLabel (start.labelsThrough later) := by
  dsimp only
  constructor
  · intro label image allocation
    have valid := (reachable.after
      (.setRegistry (LabelRegistry.empty.hearAll claims) :: later)).sound.page_valid
    obtain ⟨registry, registered, recorded⟩ := registry_after_set atlas claims kept
    have refusal := getOrCreateNamed_eq_fault_iff valid registered label image allocation
    simp only [recorded] at refusal
    refine ⟨⟨?_, ?_⟩, fun fault raised => getOrCreateNamed_of_fault valid registered raised,
      fun faultless => ?_⟩
    · rintro ⟨fault, raised⟩
      obtain ⟨known, first, differs, _⟩ := (refusal fault).mp raised
      exact ⟨known, first, differs⟩
    · rintro ⟨known, first, differs⟩
      exact ⟨_, (refusal _).mpr ⟨known, first, differs, rfl⟩⟩
    · obtain ⟨next, result, labels⟩ := getOrCreateNamed_of_faultless registered faultless
      simp only [recorded] at labels
      exact ⟨next, result, labels⟩
  · intro label through other other_through same
    have first := reachable.firstLabel_of_through kept through
    rw [same, reachable.firstLabel_of_through kept other_through] at first
    exact (Option.some.inj first).symm

/-- A registry that knows of a label whose id is zero, as that of the empty label is, and a run in which the
first creation is rejected and the fragment of the second is freed. -/
def knownLabels : List (FragmentId × String) := [(⟨0⟩, "ppkttia"), (⟨0⟩, "other")]

def namedHistory : List Operation :=
  [.getOrCreateNamed "costarring" (.packed 0 1 #[]) .shared,
    .getOrCreateNamed "zinke" sampleImage .shared, .free (.ofLabel "zinke"), .clear]

theorem first_label_decides_named :
    let start := sample.setRegistry (LabelRegistry.empty.hearAll knownLabels)
    let last := start.after namedHistory
    sample.Reachable ∧ (∀ other, Operation.setRegistry other ∉ namedHistory) ∧
      (∃ fault, (last.getOrCreateNamed "" sampleImage .shared).outcome = .error (.fault fault)) ∧
      (∃ fault, (last.getOrCreateNamed "liquid" sampleImage .shared).outcome = .error (.fault fault)) ∧
      (∃ fault, (last.getOrCreateNamed "altarage" sampleImage .shared).outcome = .error (.fault fault)) ∧
      (last.getOrCreateNamed "altarage" sampleImage .shared).atlas = last ∧
      Faultless (last.getOrCreateNamed "ppkttia" sampleImage .shared).outcome ∧
      (∃ registry, last.getOrCreateNamed "ppkttia" sampleImage .shared =
        (last.getOrCreate ⟨0⟩ sampleImage .shared).withRegistry (some registry)) ∧
      Set.InjOn FragmentId.ofLabel (start.labelsThrough namedHistory) := by
  have kept : ∀ other, Operation.setRegistry other ∉ namedHistory := by simp [namedHistory]
  obtain ⟨decided, injective⟩ := first_label_decides sample_reachable knownLabels kept
  have null : firstLabel knownLabels namedHistory (.ofLabel "") = some "ppkttia" := by decide +kernel
  have rejected : firstLabel knownLabels namedHistory (.ofLabel "liquid") = some "costarring" := by
    decide +kernel
  have freed : firstLabel knownLabels namedHistory (.ofLabel "altarage") = some "zinke" := by
    decide +kernel
  have zero : FragmentId.ofLabel "ppkttia" = ⟨0⟩ := by decide +kernel
  have known : firstLabel knownLabels namedHistory (.ofLabel "ppkttia") = some "ppkttia" := by
    decide +kernel
  obtain ⟨fault, raised⟩ := (decided "altarage" sampleImage .shared).1.mpr ⟨_, freed, by decide⟩
  have unchanged := (decided "altarage" sampleImage .shared).2.1 fault raised
  obtain ⟨through, _, answered⟩ := decided "ppkttia" sampleImage .shared
  have faultless : Faultless (((sample.setRegistry (LabelRegistry.empty.hearAll knownLabels)).after
      namedHistory).getOrCreateNamed "ppkttia" sampleImage .shared).outcome := by
    intro fault raised
    obtain ⟨first, first_eq, differs⟩ := through.mp ⟨fault, raised⟩
    exact differs (Option.some.inj (first_eq.symm.trans known))
  obtain ⟨registry, created, _⟩ := answered faultless
  rw [zero] at created
  exact ⟨sample_reachable, kept, (decided "" _ _).1.mpr ⟨_, null, by decide⟩,
    (decided "liquid" _ _).1.mpr ⟨_, rejected, by decide⟩, ⟨fault, raised⟩,
    congrArg (·.atlas) unchanged, faultless, ⟨registry, created⟩, injective⟩

end Atlas
end TextureAtlas
