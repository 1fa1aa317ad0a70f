import Mathlib.Logic.Function.Basic
import TextureAtlas.Atlas.Operation

/-! # Histories

A history is a list of operations, done one after the other whatever their outcomes; the reachable
atlases are those that come of it. A chronicle is an atlas together with the image each of its fragments
was created from, which the atlas itself does not keep. -/
set_option autoImplicit false

namespace TextureAtlas

/-- The fragment that is asked for, and the image it may be created from. -/
def Operation.request? : Operation → Option (FragmentId × Image)
  | .getOrCreate id image _ => some (id, image)
  | .getOrCreateNamed label image _ => some (.ofLabel label, image)
  | .free _ | .clear | .flush | .dropBitmaps | .setPageLimit _ | .setPageSize _ | .setRegistry _ => none

namespace Atlas

def after (atlas : Atlas) (history : List Operation) : Atlas :=
  history.foldl (fun atlas operation => (atlas.perform operation).atlas) atlas

def Reachable (atlas : Atlas) : Prop :=
  ∃ settings first history, ofSettings settings = .ok first ∧ first.after history = atlas

example : (empty {}).Reachable := ⟨{}, empty {}, [], rfl, rfl⟩

theorem eq_empty_of_ofSettings {settings : Settings} {first : Atlas}
    (success : ofSettings settings = .ok first) : first = empty settings := by
  simp only [ofSettings] at success
  split at success <;> cases success
  rfl

theorem validate_of_ofSettings {settings : Settings} {first : Atlas}
    (success : ofSettings settings = .ok first) : settings.validate = .ok () := by
  simp only [ofSettings] at success
  split at success
  · assumption
  · cases success

theorem reachable_of_ofSettings {settings : Settings} {first : Atlas}
    (success : ofSettings settings = .ok first) : first.Reachable :=
  ⟨settings, first, [], success, rfl⟩

theorem after_append (first : Atlas) (history later : List Operation) :
    first.after (history ++ later) = (first.after history).after later :=
  List.foldl_append

theorem Reachable.after {atlas : Atlas} (reachable : atlas.Reachable) (later : List Operation) :
    (atlas.after later).Reachable := by
  obtain ⟨settings, first, history, success, rfl⟩ := reachable
  exact ⟨settings, first, history ++ later, success, first.after_append history later⟩

/-- What every admitted step keeps, from reachable atlases on, holds after every admitted history. -/
theorem Reachable.keeps {holds : Atlas → Prop} {admitted : Operation → Prop}
    (step : ∀ (atlas : Atlas) (operation : Operation), atlas.Reachable → admitted operation →
      holds atlas → holds (atlas.perform operation).atlas)
    {first : Atlas} (reachable : first.Reachable) (start : holds first) (history : List Operation)
    (all : ∀ operation ∈ history, admitted operation) : holds (first.after history) := by
  induction history generalizing first with
  | nil => exact start
  | cons operation history ih =>
    obtain ⟨here, later⟩ := List.forall_mem_cons.mp all
    exact ih (reachable.after [operation]) (step first operation reachable here start) later

/-- The fragment that the operation creates, if it creates one: it was not there before, and it is
afterwards. -/
def created? (atlas : Atlas) (operation : Operation) : Option (FragmentId × Image) :=
  operation.request?.filter fun (id, _) =>
    !atlas.contains id && (atlas.perform operation).atlas.contains id

end Atlas

structure Chronicle where
  atlas : Atlas
  source : FragmentId → Option Image

namespace Chronicle

/-- Nothing was created yet. -/
def start (atlas : Atlas) : Chronicle := ⟨atlas, fun _ => none⟩

def next (chronicle : Chronicle) (operation : Operation) : Chronicle where
  atlas := (chronicle.atlas.perform operation).atlas
  source :=
    match chronicle.atlas.created? operation with
    | some (id, image) => Function.update chronicle.source id (some image)
    | none => chronicle.source

def after (chronicle : Chronicle) (history : List Operation) : Chronicle :=
  history.foldl next chronicle

@[simp] theorem after_atlas (chronicle : Chronicle) (history : List Operation) :
    (chronicle.after history).atlas = chronicle.atlas.after history := by
  induction history generalizing chronicle with
  | nil => rfl
  | cons operation history ih => exact ih (chronicle.next operation)

/-- An image that was not there at the start is that of an operation of the history. -/
theorem created_of_source {chronicle : Chronicle} {history : List Operation} {id : FragmentId}
    {image : Image} (found : (chronicle.after history).source id = some image) :
    chronicle.source id = some image ∨
      ∃ before operation later, history = before ++ operation :: later ∧
        (chronicle.atlas.after before).created? operation = some (id, image) := by
  induction history generalizing chronicle with
  | nil => exact Or.inl found
  | cons first rest ih =>
    rcases ih found with known | ⟨before, operation, later, split, created⟩
    · cases created : chronicle.atlas.created? first with
      | none =>
        simp only [next, created] at known
        exact Or.inl known
      | some request =>
        obtain ⟨id', image'⟩ := request
        simp only [next, created] at known
        by_cases same : id = id'
        · subst same
          rw [Function.update_self] at known
          cases known
          exact Or.inr ⟨[], first, rest, rfl, created⟩
        · rw [Function.update_of_ne same] at known
          exact Or.inl known
    · exact Or.inr ⟨first :: before, operation, later, congrArg (first :: ·) split, created⟩

end Chronicle

/-! ## A history to look at

On a small page with borders two fragments are placed next to each other, the first is freed, and a
third takes its place. -/

namespace Atlas

def sampleSettings : Settings := ⟨⟨8, 4⟩, 0, true⟩

def sampleImage : Image := .packed 2 1 #[8, 9]

def sampleHistory : List Operation :=
  [.getOrCreate ⟨1⟩ (.packed 1 1 #[7]) .shared,
    .getOrCreate ⟨2⟩ sampleImage .shared,
    .free ⟨1⟩,
    .getOrCreate ⟨3⟩ (.packed 1 1 #[6]) .shared]

def sample : Atlas := (empty sampleSettings).after sampleHistory

theorem sample_reachable : sample.Reachable :=
  ⟨sampleSettings, empty sampleSettings, sampleHistory, rfl, rfl⟩

def secondSample : Fragment := ⟨⟨2⟩, 0, 0, ⟨3, 4⟩, ⟨4, 1, 2, 1⟩⟩

def thirdSample : Fragment := ⟨⟨3⟩, 0, 0, ⟨0, 3⟩, ⟨1, 1, 1, 1⟩⟩

theorem sample_second : sample.get? ⟨2⟩ = some secondSample := by decide +kernel

theorem sample_third : sample.get? ⟨3⟩ = some thirdSample := by decide +kernel

end Atlas
end TextureAtlas
