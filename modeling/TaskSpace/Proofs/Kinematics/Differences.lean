import Mathlib
import TaskSpace.Kinematics.CentralDifference
import TaskSpace.Proofs.Kinematics.Smoothness
import TaskSpace.Proofs.Kinematics.Velocity

namespace TaskSpace.Kinematics

open Rigid

section Questions

variable {α : Type} [Scalar α]

-- The two neighbours of a point along each of some entries, the upper one first.
def neighboursAlong (step : α) (point : List α) (entries : List (α × Nat)) : List (List α) :=
  entries.flatMap fun (entry, index) => [point.set index (entry + step), point.set index (entry - step)]

def neighbours (point : List α) (step : α) : List (List α) := neighboursAlong step point point.zipIdx

-- The slopes between values at an upper and at a lower neighbour, pair by pair.
def slopes (step : α) : List (Vec3 α) → List (Vec3 α)
  | above :: below :: rest => (above - below).divide (2.0 * step) :: slopes step rest
  | _ => []

theorem slopes_flatMap {ι : Type} (step : α) (indices : List ι) (above below : ι → Vec3 α) :
    slopes step (indices.flatMap fun index => [above index, below index]) =
      indices.map fun index => (above index - below index).divide (2.0 * step) := by
  induction indices with
  | nil => rfl
  | cons index indices ih => exact congrArg (_ :: ·) ih

theorem neighboursAlong_cons (step : α) (point : List α) (pair : α × Nat) (entries : List (α × Nat)) :
    neighboursAlong step point (pair :: entries) =
      point.set pair.2 (pair.1 + step) :: point.set pair.2 (pair.1 - step) ::
        neighboursAlong step point entries := rfl

theorem length_neighboursAlong (step : α) (point : List α) (entries : List (α × Nat)) :
    (neighboursAlong step point entries).length = 2 * entries.length := by
  induction entries with
  | nil => rfl
  | cons entry entries ih =>
      rw [neighboursAlong_cons, List.length_cons, List.length_cons, ih, List.length_cons]
      omega

theorem neighboursAlong_getElem? (step : α) (point : List α) {entries : List (α × Nat)} {j : Nat}
    (hj : j < entries.length) :
    (neighboursAlong step point entries)[2 * j]? =
        some (point.set entries[j].2 (entries[j].1 + step)) ∧
      (neighboursAlong step point entries)[2 * j + 1]? =
        some (point.set entries[j].2 (entries[j].1 - step)) := by
  induction entries generalizing j with
  | nil => cases hj
  | cons entry entries ih =>
      rw [neighboursAlong_cons]
      cases j with
      | zero => exact ⟨rfl, rfl⟩
      | succ j => exact ih (Nat.lt_of_succ_lt_succ hj)

section Calls

variable {m : Type → Type} [Monad m]

-- The function, with a list of the points it has been asked about.
def recorded (f : List α → m (Vec3 α)) (point : List α) : StateT (List (List α)) m (Vec3 α) := do
  modify (· ++ [point])
  f point

variable [LawfulMonad m]

omit [Scalar α] in
theorem run_mapM_recorded (f : List α → m (Vec3 α)) (points calls : List (List α)) :
    (points.mapM (recorded f)).run calls = (·, calls ++ points) <$> points.mapM f := by
  induction points generalizing calls with
  | nil => simp
  | cons point points ih => simp [recorded, ih]

-- A column leaves the point in the storage as it was, whatever the function does.
theorem run_differenceColumn (f : List α → m (Vec3 α)) (step : α) {entry : α} {index : Nat}
    {point : List α} (hentry : point[index]? = some entry) :
    (differenceColumn f step entry index).run point = do
      let above ← f (point.set index (entry + step))
      let below ← f (point.set index (entry - step))
      return ((above - below).divide (2.0 * step), point) := by
  have hrestored : point.set index entry = point := by
    obtain ⟨hindex, rfl⟩ := List.getElem?_eq_some_iff.mp hentry
    exact List.set_getElem_self hindex
  simp [differenceColumn, hrestored]

-- From column to column the storage holds the point itself, so that the neighbours are its own.
theorem run_mapM_differenceColumn (f : List α → m (Vec3 α)) (step : α) {point : List α}
    {entries : List (α × Nat)} (hentries : ∀ pair ∈ entries, point[pair.2]? = some pair.1) :
    (entries.mapM fun (entry, index) => differenceColumn f step entry index).run point =
      (fun answers => (slopes step answers, point)) <$>
        (neighboursAlong step point entries).mapM f := by
  induction entries with
  | nil => simp [neighboursAlong, slopes]
  | cons pair entries ih =>
      obtain ⟨hpair, hothers⟩ := List.forall_mem_cons.mp hentries
      have hrest := ih hothers
      simp [neighboursAlong_cons, run_differenceColumn f step hpair, hrest, slopes]

theorem centralDifference_eq (f : List α → m (Vec3 α)) (point : List α) (step : α) :
    centralDifference f point step = slopes step <$> (neighbours point step).mapM f := by
  have hentries : ∀ pair ∈ point.zipIdx, point[pair.2]? = some pair.1 := fun pair hpair =>
    List.mk_mem_zipIdx_iff_getElem?.mp hpair
  rw [centralDifference, StateT.run'_eq, run_mapM_differenceColumn f step hentries, Functor.map_map]
  rfl

-- A function of a point is asked about the neighbours of the point and about nothing else, each time
-- with a single entry moved.
structure AsksNeighbours (f : List α → m (Vec3 α)) (point : List α) (step : α) : Prop where
  count : (neighbours point step).length = 2 * point.length
  upper : ∀ j (hj : j < point.length),
    (neighbours point step)[2 * j]? = some (point.set j (point[j] + step))
  lower : ∀ j (hj : j < point.length),
    (neighbours point step)[2 * j + 1]? = some (point.set j (point[j] - step))
  calls : (centralDifference (recorded f) point step).run [] =
    (·, neighbours point step) <$> centralDifference f point step
  columns : centralDifference f point step = slopes step <$> (neighbours point step).mapM f

theorem asksNeighbours (f : List α → m (Vec3 α)) (point : List α) (step : α) :
    AsksNeighbours f point step where
  count := by rw [neighbours, length_neighboursAlong, List.length_zipIdx]
  upper j hj := by
    have hentry : j < (point.zipIdx).length := by rwa [List.length_zipIdx]
    simpa [neighbours] using (neighboursAlong_getElem? step point hentry).1
  lower j hj := by
    have hentry : j < (point.zipIdx).length := by rwa [List.length_zipIdx]
    simpa [neighbours] using (neighboursAlong_getElem? step point hentry).2
  calls := by
    rw [centralDifference_eq, centralDifference_eq, StateT.run_map, run_mapM_recorded]
    simp
  columns := centralDifference_eq f point step

end Calls

end Questions

section Exactness

open MvPolynomial (eval)

-- Of a function of one number.
def IsParabola (g : ℝ → ℝ) : Prop := ∃ a b c, ∀ t, g t = a + b * t + c * t ^ 2

namespace IsParabola

variable {g h : ℝ → ℝ}

theorem zero : IsParabola fun _ => 0 := ⟨0, 0, 0, fun t => by ring⟩

theorem add (hg : IsParabola g) (hh : IsParabola h) : IsParabola fun t => g t + h t := by
  obtain ⟨a, b, c, hg⟩ := hg
  obtain ⟨a', b', c', hh⟩ := hh
  exact ⟨a + a', b + b', c + c', fun t => by simp only [hg, hh]; ring⟩

theorem monomial (factor : ℝ) {k : Nat} (hk : k ≤ 2) : IsParabola fun t => factor * t ^ k := by
  interval_cases k
  · exact ⟨factor, 0, 0, fun t => by ring⟩
  · exact ⟨0, factor, 0, fun t => by ring⟩
  · exact ⟨0, 0, factor, fun t => by ring⟩

theorem sum {ι : Type*} {s : Finset ι} {g : ι → ℝ → ℝ} (hg : ∀ i ∈ s, IsParabola (g i)) :
    IsParabola fun t => ∑ i ∈ s, g i t := by
  classical
  induction s using Finset.induction_on with
  | empty => simpa using zero
  | insert i s hi ih =>
      have hsum := (hg i (Finset.mem_insert_self i s)).add
        (ih fun other hother => hg other (Finset.mem_insert_of_mem hother))
      simpa only [Finset.sum_insert hi] using hsum

-- A parabola is as steep as its chords whose middle is above the same place, however wide they are.
theorem hasDerivAt (hg : IsParabola g) (t : ℝ) {step : ℝ} (hstep : step ≠ 0) :
    HasDerivAt g ((g (t + step) - g (t - step)) / (2 * step)) t := by
  obtain ⟨a, b, c, hg⟩ := hg
  have hchord : (g (t + step) - g (t - step)) / (2 * step) = b + c * (2 * t) := by
    rw [hg, hg]
    field_simp
    ring
  have hderiv : HasDerivAt (fun t => a + b * t + c * t ^ 2) (b * 1 + c * (2 * t)) t := by
    have hsquare : HasDerivAt (fun t : ℝ => t ^ 2) (2 * t) t := by simpa using hasDerivAt_pow 2 t
    exact (((hasDerivAt_id t).const_mul b).const_add a).add (hsquare.const_mul c)
  rw [hchord, funext hg]
  simpa using hderiv

end IsParabola

variable {n : Nat}

-- Along one variable, where the others keep their values.
theorem isParabola_eval_update {p : MvPolynomial (Fin n) ℝ} (hp : p.totalDegree ≤ 2) (q : Fin n → ℝ)
    (j : Fin n) : IsParabola fun t => eval (Function.update q j t) p := by
  simp only [MvPolynomial.eval_eq']
  refine .sum fun d hd => ?_
  have hpower : d j ≤ 2 := ((Finsupp.le_degree j d).trans (MvPolynomial.le_totalDegree hd)).trans hp
  have hterm : ∀ t, p.coeff d * ∏ i, Function.update q j t i ^ d i =
      (p.coeff d * ∏ i ∈ Finset.univ.erase j, q i ^ d i) * t ^ d j := by
    intro t
    have hothers : ∏ i ∈ Finset.univ.erase j, Function.update q j t i ^ d i =
        ∏ i ∈ Finset.univ.erase j, q i ^ d i :=
      Finset.prod_congr rfl fun i hi => by rw [Function.update_of_ne (Finset.ne_of_mem_erase hi)]
    rw [← Finset.prod_erase_mul _ _ (Finset.mem_univ j), hothers, Function.update_self, mul_assoc]
  simpa only [hterm] using IsParabola.monomial _ hpower

-- Of a vector that depends on several numbers.
def IsQuadratic (value : (Fin n → ℝ) → Vec3 ℝ) : Prop :=
  ∀ row, ∃ p : MvPolynomial (Fin n) ℝ, p.totalDegree ≤ 2 ∧ ∀ x, (value x).get row = eval x p

theorem IsQuadratic.hasFDerivAt {value : (Fin n → ℝ) → Vec3 ℝ} (hvalue : IsQuadratic value)
    (q : Fin n → ℝ) {step : ℝ} (hstep : step ≠ 0) (row : Axis) :
    HasFDerivAt (fun x => (value x).get row)
      (∑ j, (((value (Function.update q j (q j + step))).get row -
          (value (Function.update q j (q j - step))).get row) / (2 * step)) •
        (ContinuousLinearMap.proj j : (Fin n → ℝ) →L[ℝ] ℝ)) q := by
  obtain ⟨p, hp, heq⟩ := hvalue row
  simp only [heq]
  refine hasFDerivAt_of_partials ?_ fun j => (isParabola_eval_update hp q j).hasDerivAt (q j) hstep
  exact (AnalyticOnNhd.eval_mvPolynomial p q (Set.mem_univ q)).differentiableAt

-- The neighbours of a point are given as vectors, each with one entry moved.
theorem neighbours_ofFn (q : Fin n → ℝ) (step : ℝ) :
    neighbours (List.ofFn q) step =
      ((List.finRange n).flatMap fun j =>
        [Function.update q j (q j + step), Function.update q j (q j - step)]).map List.ofFn := by
  have hentries : (List.ofFn q).zipIdx = (List.finRange n).map fun j => (q j, (j : Nat)) :=
    List.ext_getElem (by simp) fun index hindex _ => by simp
  rw [neighbours, neighboursAlong, hentries, List.flatMap_map, List.map_flatMap]
  simp only [List.map_cons, List.map_nil, ofFn_update]

-- A function may keep what it likes, if that does not change its values.
theorem answers_mapM {β γ σ : Type} {f : β → StateM σ γ} {value : β → γ}
    (hf : ∀ point storage, ((f point).run storage).1 = value point) (points : List β) (storage : σ) :
    ((points.mapM f).run storage).1 = points.map value := by
  induction points generalizing storage with
  | nil => rfl
  | cons point points ih =>
      rw [List.mapM_cons, List.map_cons, ← hf point storage, ← ih ((f point).run storage).2]
      rfl

theorem columns_centralDifference {σ : Type} {f : List ℝ → StateM σ (Vec3 ℝ)}
    {value : (Fin n → ℝ) → Vec3 ℝ} (hf : ∀ x storage, ((f (List.ofFn x)).run storage).1 = value x)
    (q : Fin n → ℝ) (step : ℝ) (storage : σ) :
    ((centralDifference f (List.ofFn q) step).run storage).1 = List.ofFn fun j =>
      (value (Function.update q j (q j + step)) - value (Function.update q j (q j - step))).divide
        (2.0 * step) := by
  have hvalue : ∀ answers : StateM σ (List (Vec3 ℝ)),
      ((slopes step <$> answers).run storage).1 = slopes step (answers.run storage).1 := fun _ => rfl
  rw [centralDifference_eq, neighbours_ofFn, List.mapM_map, hvalue,
    answers_mapM (f := f ∘ List.ofFn) hf, List.map_flatMap, List.ofFn_eq_map]
  exact slopes_flatMap step _ _ _

end Exactness

-- What the function is asked does not depend on what it answers, and it may fail or keep what it likes.
-- If it is quadratic, its slopes are exact, however far away the neighbours are.
theorem centralDifference_laws :
    (∀ {α : Type} [Scalar α] {m : Type → Type} [Monad m] [LawfulMonad m] (f : List α → m (Vec3 α))
      (point : List α) (step : α), AsksNeighbours f point step) ∧
    ∀ {n : Nat} {σ : Type} (f : List ℝ → StateM σ (Vec3 ℝ)) (value : (Fin n → ℝ) → Vec3 ℝ),
      IsQuadratic value → (∀ x storage, ((f (List.ofFn x)).run storage).1 = value x) →
        ∀ (q : Fin n → ℝ) (step : ℝ), step ≠ 0 → ∀ storage,
          ∃ columns : Fin n → Vec3 ℝ,
            ((centralDifference f (List.ofFn q) step).run storage).1 = List.ofFn columns ∧
            ∀ row, HasFDerivAt (fun x => (value x).get row)
              (∑ j, (columns j).get row • (ContinuousLinearMap.proj j : (Fin n → ℝ) →L[ℝ] ℝ)) q := by
  refine ⟨fun f point step => asksNeighbours f point step, ?_⟩
  intro n σ f value hvalue hf q step hstep storage
  refine ⟨_, columns_centralDifference hf q step storage, fun row => ?_⟩
  have hrow := hvalue.hasFDerivAt q hstep row
  convert hrow using 3 with j
  cases row <;> simp [Vec3.divide, Vec3.get]

-- Products of two positions, at neighbours five units away, from a function that counts its calls.
theorem centralDifference_laws_counted :
    let value : (Fin 2 → ℝ) → Vec3 ℝ := fun x => ⟨x 0 * x 1, x 1 ^ 2, x 0⟩
    let f : List ℝ → StateM Nat (Vec3 ℝ) := fun point => do
      modify (· + 1)
      return value fun j => point[j]?.getD 0
    IsQuadratic value ∧ (∀ x storage, ((f (List.ofFn x)).run storage).1 = value x) ∧
      ((centralDifference f (List.ofFn ![1, 2]) 5).run 0).2 = 4 ∧
      (centralDifference (recorded f) (List.ofFn ![1, 2]) 5).run [] =
        (·, neighbours (List.ofFn ![1, 2]) 5) <$> centralDifference f (List.ofFn ![1, 2]) 5 ∧
      ∃ columns : Fin 2 → Vec3 ℝ,
        ((centralDifference f (List.ofFn ![1, 2]) 5).run 0).1 = List.ofFn columns ∧
        ∀ row, HasFDerivAt (fun x => (value x).get row)
          (∑ j, (columns j).get row • (ContinuousLinearMap.proj j : (Fin 2 → ℝ) →L[ℝ] ℝ)) ![1, 2] := by
  intro value f
  have hvalue : IsQuadratic value := by
    rintro (_ | _ | _)
    · refine ⟨.X 0 * .X 1, (MvPolynomial.totalDegree_mul _ _).trans ?_, fun x => by simp [value, Vec3.get]⟩
      simp
    · refine ⟨.X 1 ^ 2, (MvPolynomial.totalDegree_pow _ _).trans ?_, fun x => by simp [value, Vec3.get]⟩
      simp
    · exact ⟨.X 0, by simp, fun x => by simp [value, Vec3.get]⟩
  have hf : ∀ x storage, ((f (List.ofFn x)).run storage).1 = value x := fun _ _ => rfl
  refine ⟨hvalue, hf, rfl, (centralDifference_laws.1 f _ _).calls, ?_⟩
  exact centralDifference_laws.2 f value hvalue hf ![1, 2] 5 (by norm_num) 0

end TaskSpace.Kinematics
