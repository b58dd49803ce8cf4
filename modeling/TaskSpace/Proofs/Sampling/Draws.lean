import Mathlib
import TaskSpace.Sampling.Configurations

namespace TaskSpace.Sampling

section Draws

variable {β γ δ : Type} {f : β → StateT γ Option δ}

-- What a source gives for one question after the other, each put to it where the one before has left it.
inductive Draws (f : β → StateT γ Option δ) : γ → List β → List δ → γ → Prop
  | nil (source : γ) : Draws f source [] [] source
  | cons {source next last : γ} {question : β} {value : δ} {questions : List β} {values : List δ}
      (hfirst : (f question).run source = some (value, next)) (hrest : Draws f next questions values last) :
      Draws f source (question :: questions) (value :: values) last

theorem run_mapM_cons (question : β) (questions : List β) (source : γ) :
    ((question :: questions).mapM f).run source =
      ((f question).run source).bind fun first =>
        ((questions.mapM f).run first.2).map fun rest => (first.1 :: rest.1, rest.2) := by
  rw [List.mapM_cons, StateT.run_bind]
  cases (f question).run source with
  | none => rfl
  | some first =>
      change (questions.mapM f >>= fun values => pure (first.1 :: values)).run first.2 = _
      rw [StateT.run_bind, Option.bind_some]
      cases (questions.mapM f).run first.2 <;> rfl

theorem run_mapM_eq_some_iff {source last : γ} {questions : List β} {values : List δ} :
    (questions.mapM f).run source = some (values, last) ↔ Draws f source questions values last := by
  constructor
  · intro h
    induction questions generalizing source values with
    | nil => cases h; exact .nil _
    | cons question questions ih =>
        rw [run_mapM_cons, Option.bind_eq_some_iff] at h
        obtain ⟨⟨value, next⟩, hfirst, hrest⟩ := h
        obtain ⟨⟨others, last⟩, hothers, heq⟩ := Option.map_eq_some_iff.mp hrest
        cases heq
        exact .cons hfirst (ih hothers)
  · intro h
    induction h with
    | nil => rfl
    | cons hfirst _ ih => rw [run_mapM_cons, hfirst, Option.bind_some, ih]; rfl

-- If it depends on the question alone whether there is an answer, one bad question among them is enough.
theorem run_mapM_eq_none_iff {good : β → Prop}
    (hf : ∀ question source, (f question).run source = none ↔ ¬good question)
    (questions : List β) (source : γ) :
    (questions.mapM f).run source = none ↔ ∃ question ∈ questions, ¬good question := by
  induction questions generalizing source with
  | nil => simp
  | cons question questions ih =>
      rw [run_mapM_cons, List.exists_mem_cons_iff, ← hf question source]
      cases (f question).run source with
      | none => simp
      | some drawn => simp [ih]

namespace Draws

variable {source last : γ} {questions : List β} {values : List δ}

theorem forall₂ {holds : β → δ → Prop}
    (hf : ∀ {question source value next},
      (f question).run source = some (value, next) → holds question value)
    (h : Draws f source questions values last) : List.Forall₂ holds questions values := by
  induction h with
  | nil => exact .nil
  | cons hfirst _ ih => exact .cons (hf hfirst) ih

theorem length_eq (h : Draws f source questions values last) : values.length = questions.length :=
  (h.forall₂ fun _ => trivial : List.Forall₂ (fun _ _ => True) questions values).length_eq.symm

-- Every value is the answer to a question at some state of the source.
theorem exists_of_mem (h : Draws f source questions values last) {value : δ} (hvalue : value ∈ values) :
    ∃ question ∈ questions, ∃ source next, (f question).run source = some (value, next) := by
  induction h with
  | nil => cases hvalue
  | cons hfirst _ ih =>
      cases hvalue with
      | head => exact ⟨_, List.mem_cons_self, _, _, hfirst⟩
      | tail _ hvalue =>
          obtain ⟨question, hquestion, hrun⟩ := ih hvalue
          exact ⟨question, List.mem_cons_of_mem _ hquestion, hrun⟩

theorem append {next : γ} {others : List β} {rest : List δ} (h : Draws f source questions values next)
    (hrest : Draws f next others rest last) :
    Draws f source (questions ++ others) (values ++ rest) last := by
  induction h with
  | nil => exact hrest
  | cons hfirst _ ih => exact .cons hfirst (ih hrest)

-- Answers that are put together from smaller ones make one long series of those.
theorem flatten {α : Type} {g : α → StateT γ Option (List δ)} {parts : α → List β}
    (hg : ∀ {whole source values next}, (g whole).run source = some (values, next) →
      Draws f source (parts whole) values next)
    {wholes : List α} {answers : List (List δ)} (h : Draws g source wholes answers last) :
    Draws f source (wholes.map parts).flatten answers.flatten last := by
  induction h with
  | nil source => exact .nil source
  | cons hfirst _ ih => exact (hg hfirst).append ih

-- Later questions do not change the answers to earlier ones.
theorem take (h : Draws f source questions values last) (count : Nat) :
    ∃ next, Draws f source (questions.take count) (values.take count) next := by
  induction h generalizing count with
  | nil source => exact ⟨source, by simpa using .nil source⟩
  | @cons source _ _ _ _ _ _ hfirst _ ih =>
      cases count with
      | zero => exact ⟨source, .nil source⟩
      | succ count =>
          obtain ⟨next, hnext⟩ := ih count
          exact ⟨next, .cons hfirst hnext⟩

-- The answers are settled by the questions and the source.
theorem values_eq {others : List δ} {last' : γ} (h : Draws f source questions values last)
    (h' : Draws f source questions others last') : values = others := by
  have hrun := (run_mapM_eq_some_iff.mpr h).symm.trans (run_mapM_eq_some_iff.mpr h')
  exact congrArg Prod.fst (Option.some.inj hrun)

end Draws

end Draws

variable {α γ : Type} [ExtendedScalar α]

-- What is known of a source of numbers: it gives one from the lower to below the upper end, or none if
-- there is none between them or their distance is not finite.
structure Draw.KeepsRange (draw : Draw γ α) : Prop where
  fails_iff : ∀ lower upper source, (draw lower upper).run source = none ↔
    ¬(lower < upper ∧ ExtendedScalar.isFinite (upper - lower) = true)
  within : ∀ {lower upper source value next}, (draw lower upper).run source = some (value, next) →
    lower ≤ value ∧ value < upper

end TaskSpace.Sampling
