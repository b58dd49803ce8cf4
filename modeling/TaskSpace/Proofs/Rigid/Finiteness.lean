import Mathlib
import TaskSpace.Proofs.Rigid.CrossProduct
import TaskSpace.Proofs.Rigid.Extension

namespace TaskSpace.Rigid

open ExtendedReal (real exists_of_add_eq_real exists_of_sub_eq_real exists_of_mul_eq_real
  exists_of_div_eq_real)

namespace Vec3

variable {v w : Vec3 ExtendedReal} {axis : Axis} {a : ℝ}

theorem exists_extend (h : ∀ axis, ∃ a, v.get axis = real a) : ∃ finite : Vec3 ℝ, v = finite.extend := by
  obtain ⟨x, hx⟩ := h .x
  obtain ⟨y, hy⟩ := h .y
  obtain ⟨z, hz⟩ := h .z
  exact ⟨⟨x, y, z⟩, Vec3.ext hx hy hz⟩

-- One finite row of a cross product shows that the entries it is made of are finite.
theorem exists_of_get_cross (h : (v.cross w).get axis = real a) :
    ((∃ b, v.get axis.next = real b) ∧ ∃ b, v.get axis.next.next = real b) ∧
      (∃ b, w.get axis.next = real b) ∧ ∃ b, w.get axis.next.next = real b := by
  rw [get_cross] at h
  obtain ⟨⟨_, hfirst⟩, _, hsecond⟩ := exists_of_sub_eq_real h
  obtain ⟨hnext, hotherLast⟩ := exists_of_mul_eq_real hfirst
  obtain ⟨hlast, hotherNext⟩ := exists_of_mul_eq_real hsecond
  exact ⟨⟨hnext, hlast⟩, hotherNext, hotherLast⟩

theorem exists_extend_of_sub {difference : Vec3 ℝ} (h : v - w = difference.extend) :
    (∃ finite : Vec3 ℝ, v = finite.extend) ∧ ∃ finite : Vec3 ℝ, w = finite.extend := by
  have hentries : ∀ axis, (∃ b, v.get axis = real b) ∧ ∃ c, w.get axis = real c := by
    intro axis
    refine exists_of_sub_eq_real (a := difference.get axis) ?_
    rw [← extend_get, ← h]
    exact (get_zipWith _ _ _ _).symm
  exact ⟨exists_extend fun axis => (hentries axis).1, exists_extend fun axis => (hentries axis).2⟩

-- A direction is finite only where the vector is, whatever its norm.
theorem exists_of_get_normalize (h : v.normalize.get axis = real a) : ∃ b, v.get axis = real b := by
  rw [normalize, divide, get_map] at h
  exact exists_of_div_eq_real h

end Vec3

-- Every row of a turned vector sees all entries of the vector, even if it counts them zero times.
theorem Quat.exists_extend_of_rotate {q : Quat ExtendedReal} {v : Vec3 ExtendedReal} {axis : Axis} {a : ℝ}
    (h : (q.rotate v).get axis = real a) : ∃ finite : Vec3 ℝ, v = finite.extend := by
  have htwice : ∀ {row b}, ((q.imaginary.cross v).scale 2.0).get row = real b →
      ∃ c, (q.imaginary.cross v).get row = real c := by
    intro row b hrow
    rw [Vec3.scale, Vec3.get_map] at hrow
    exact (exists_of_mul_eq_real hrow).1
  have hsum : ((q.imaginary.cross v).scale 2.0).get axis * q.w +
      (q.imaginary.cross ((q.imaginary.cross v).scale 2.0)).get axis + v.get axis = real a := by
    rw [← h]
    cases axis <;> rfl
  obtain ⟨⟨_, hturned⟩, hself⟩ := exists_of_add_eq_real hsum
  obtain ⟨_, _, hcross⟩ := exists_of_add_eq_real hturned
  obtain ⟨_, ⟨_, hnext⟩, _, hlast⟩ := Vec3.exists_of_get_cross hcross
  obtain ⟨_, hnext⟩ := htwice hnext
  obtain ⟨_, hlast⟩ := htwice hlast
  -- The next row of the inner product holds the last entry, and its last row the next one.
  obtain ⟨_, hentryLast, _⟩ := Vec3.exists_of_get_cross hnext
  obtain ⟨_, _, hentryNext⟩ := Vec3.exists_of_get_cross hlast
  rw [axis.next_next_next] at hentryNext
  exact Vec3.exists_extend (axis.forall_of_next hself hentryNext hentryLast)

end TaskSpace.Rigid
