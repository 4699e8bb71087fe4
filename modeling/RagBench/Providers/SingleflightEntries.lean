import Mathlib.Logic.Relation
import RagBench.Providers.Singleflight

/-!
# The entries of the registry

Every entry belongs to a key that somebody uses, and keys do not share objects.
So the number of users of an object is the number of tasks on its key, and the
registry is empty when nobody is left.
-/

namespace RagBench

namespace Singleflight

variable {ι : Type}

/-- A sound state with one used object for each key. -/
structure Tidy (state : Singleflight ι) : Prop where
  sound : state.Sound
  apart : ∀ key key' object,
    state.registry.entries.get? key = some object →
      state.registry.entries.get? key' = some object → key = key'
  used : ∀ key object, state.registry.entries.get? key = some object →
    ∃ task, (state.frames task).uses = some (key, object)

theorem Tidy.init : (init : Singleflight ι).Tidy where
  sound := .init
  apart := nofun
  used := nofun

section Steps

variable [DecidableEq ι] {state : Singleflight ι} {task : ι} {key : String}
  {object : ℕ}

/-- A new object has the number that is next. -/
theorem Tidy.arrive (tidy : state.Tidy)
    (outside : state.frames task = .outside) (key : String) :
    (state.arrive task key).Tidy := by
  have entries (name : String) (used : ℕ)
      (found : (state.arrive task key).registry.entries.get? name =
        some used) :
      name = key ∧ used = (state.registry.setdefault key).1 ∨
        name ≠ key ∧ state.registry.entries.get? name = some used := by
    by_cases same : name = key
    · subst same
      have here := (tidy.sound.setdefault name).2
      rw [show (state.registry.setdefault name).2.entries.get? name =
        some used from found, Option.some_inj] at here
      exact .inl ⟨rfl, here⟩
    · refine .inr ⟨same, ?_⟩
      change (state.registry.setdefault key).2.entries.get? name = _ at found
      unfold SingleflightRegistry.setdefault at found
      split at found
      · exact found
      · rwa [Dict.get?_set_of_ne _ _ (Ne.symm same)] at found
  have fresh (name : String)
      (found : state.registry.entries.get? name =
        some (state.registry.setdefault key).1) : name = key := by
    unfold SingleflightRegistry.setdefault at found
    split at found
    · rename_i object here
      exact tidy.apart name key object found here
    · exact absurd (tidy.sound.existing name _ found) (lt_irrefl _)
  refine ⟨tidy.sound.arrive outside key, ?_, ?_⟩
  · intro name name' used found found'
    rcases entries name used found with ⟨rfl, rfl⟩ | ⟨-, old⟩
    · rcases entries name' _ found' with ⟨rfl, -⟩ | ⟨-, old'⟩
      · rfl
      · exact (fresh name' old').symm
    · rcases entries name' used found' with ⟨rfl, rfl⟩ | ⟨-, old'⟩
      · exact fresh name old
      · exact tidy.apart name name' used old old'
  · intro name used found
    rcases entries name used found with ⟨rfl, rfl⟩ | ⟨-, old⟩
    · refine ⟨task, ?_⟩
      simp only [Singleflight.arrive, Function.update_self]
      rfl
    · obtain ⟨other, uses⟩ := tidy.used name used old
      have different : other ≠ task := by
        rintro rfl
        rw [outside] at uses
        cases uses
      refine ⟨other, ?_⟩
      simp only [Singleflight.arrive, Function.update_of_ne different]
      exact uses

theorem Tidy.acquire (tidy : state.Tidy)
    (waiting : state.frames task = .waiting key object)
    (free : (state.registry.objects object).locked = false) :
    (state.acquire task key object).Tidy := by
  refine ⟨tidy.sound.acquire waiting free, tidy.apart, ?_⟩
  intro name used found
  obtain ⟨other, uses⟩ := tidy.used name used found
  refine ⟨other, ?_⟩
  by_cases same : other = task
  · subst same
    rw [waiting] at uses
    cases uses
    simp only [Singleflight.acquire, Function.update_self]
    rfl
  · simp only [Singleflight.acquire, Function.update_of_ne same]
    exact uses

/-- An entry that stays has another user. -/
theorem Tidy.leave (tidy : state.Tidy) {acquired : Bool}
    (uses : (state.frames task).uses = some (key, object))
    (holding : acquired = true → state.frames task = .holding key object) :
    (state.leave task key object acquired).Tidy := by
  have kept (name : String) (used : ℕ)
      (found : (state.leave task key object acquired).registry.entries.get?
        name = some used) :
      state.registry.entries.get? name = some used ∧
        (name = key → (state.registry.objects object).users - 1 ≠ 0) := by
    have here := tidy.sound.current task key object uses
    simp only [Singleflight.leave, SingleflightRegistry.leave] at found
    split_ifs at found with last
    · rw [Dict.get?_erase] at found
      split_ifs at found with same
      exact ⟨found, fun same' => absurd same'.symm same⟩
    · exact ⟨found, fun _ gone => last ⟨gone, here⟩⟩
  refine ⟨tidy.sound.leave uses holding, ?_, ?_⟩
  · intro name name' used found found'
    exact tidy.apart name name' used (kept name used found).1
      (kept name' used found').1
  · intro name used found
    obtain ⟨old, shared⟩ := kept name used found
    have another : ∃ other ≠ task,
        (state.frames other).uses = some (name, used) := by
      obtain ⟨other, uses'⟩ := tidy.used name used old
      by_cases same : other = task
      · subst same
        rw [uses] at uses'
        cases uses'
        obtain ⟨users, count, members⟩ :=
          tidy.sound.counted object (tidy.sound.uses_created uses)
        have several : 1 < users.card := by
          have := shared rfl
          omega
        obtain ⟨third, member, different⟩ :=
          Finset.exists_mem_ne several other
        obtain ⟨name', third_uses⟩ := (members third).mp member
        obtain rfl := tidy.apart name' key object
          (tidy.sound.current third name' object third_uses) old
        exact ⟨third, different, third_uses⟩
      · exact ⟨other, same, uses'⟩
    obtain ⟨other, different, uses'⟩ := another
    refine ⟨other, ?_⟩
    simp only [Singleflight.leave, Function.update_of_ne different]
    exact uses'

theorem Tidy.step {after : Singleflight ι} (tidy : state.Tidy)
    (performed : state.Step after) : after.Tidy := by
  cases performed with
  | arrive key outside => exact tidy.arrive outside key
  | acquire waiting free => exact tidy.acquire waiting free
  | abandon waiting =>
      exact tidy.leave (by rw [waiting]; rfl) (fun never => by cases never)
  | release holding =>
      exact tidy.leave (by rw [holding]; rfl) (fun _ => holding)

theorem Tidy.reaches {after : Singleflight ι} (tidy : state.Tidy)
    (reached : Relation.ReflTransGen Step state after) : after.Tidy := by
  induction reached with
  | refl => exact tidy
  | tail _ performed induction => exact induction.step performed

end Steps

/-! ## Counts -/

variable {state : Singleflight ι} {key : String}

/-- The users of a key, and how many of them its object counts. -/
theorem Tidy.users (tidy : state.Tidy) (key : String) :
    ∃ users : Finset ι,
      (∀ task, task ∈ users ↔
        ∃ object, (state.frames task).uses = some (key, object)) ∧
      match state.registry.entries.get? key with
      | none => users = ∅
      | some object => users.card = (state.registry.objects object).users ∧
          0 < users.card := by
  cases found : state.registry.entries.get? key with
  | none =>
      refine ⟨∅, fun task => ⟨nofun, ?_⟩, rfl⟩
      rintro ⟨object, uses⟩
      rw [tidy.sound.current task key object uses] at found
      cases found
  | some object =>
      obtain ⟨users, count, members⟩ :=
        tidy.sound.counted object (tidy.sound.existing key object found)
      refine ⟨users, fun task => (members task).trans ⟨?_, ?_⟩, count, ?_⟩
      · rintro ⟨name, uses⟩
        obtain rfl := tidy.apart name key object
          (tidy.sound.current task name object uses) found
        exact ⟨object, uses⟩
      · rintro ⟨used, uses⟩
        have here := tidy.sound.current task key used uses
        rw [found, Option.some_inj] at here
        subst here
        exact ⟨key, uses⟩
      · obtain ⟨task, uses⟩ := tidy.used key object found
        exact Finset.card_pos.mpr ⟨task, (members task).mpr ⟨key, uses⟩⟩

theorem Tidy.empty (tidy : state.Tidy)
    (gone : ∀ task, state.frames task = .outside) :
    state.registry.entries = .empty := by
  refine Dict.ext (List.eq_nil_iff_forall_not_mem.mpr ?_)
  rintro ⟨key, object⟩ member
  obtain ⟨task, uses⟩ := tidy.used key object
    ((Dict.get?_eq_some_iff _).mpr member)
  rw [gone task] at uses
  cases uses

end Singleflight

end RagBench
