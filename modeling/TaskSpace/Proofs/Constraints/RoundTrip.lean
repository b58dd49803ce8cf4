import Mathlib
import TaskSpace.Constraints.Encoding
import TaskSpace.Proofs.Toml.Omission
import TaskSpace.Proofs.Zeros

namespace TaskSpace.Constraints

open Rigid Toml

-- The fields that may be left out of a description, and what stands for them then.
def defaultOf? : String → Option Value
  | "name" => some (.string "")
  | "position_constraints" | "orientation_constraints" | "primitives" | "primitive_poses" => some (.array [])
  | "kind" => some (.string "box")
  | "position" => some (numberArray [0.0, 0.0, 0.0])
  | "orientation" => some (numberArray [0.0, 0.0, 0.0, 1.0])
  | _ => none

-- Equality of texts, of numbers and of arrays of them, where that of numbers is given.
inductive EqualValues (equals : Float → Float → Prop) : Value → Value → Prop
  | text (text : String) : EqualValues equals (.string text) (.string text)
  | number {a b : Float} (h : equals a b) : EqualValues equals (.float a) (.float b)
  | array {items others : List Value} (h : List.Forall₂ (EqualValues equals) items others) :
      EqualValues equals (.array items) (.array others)

def IsDefault (equals : Float → Float → Prop) (key : String) (value : Value) : Prop :=
  ∃ default, defaultOf? key = some default ∧ EqualValues equals value default

variable {equals : Float → Float → Prop} {key : String}

theorem IsDefault.equalValues {value default : Value} (h : IsDefault equals key value)
    (hkey : defaultOf? key = some default) : EqualValues equals value default := by
  obtain ⟨_, hkey', hvalue⟩ := h
  rwa [← Option.some.inj (hkey'.symm.trans hkey)]

theorem not_isDefault (hkey : defaultOf? key = none) (value : Value) : ¬IsDefault equals key value := by
  rintro ⟨_, hkey', _⟩
  cases hkey.symm.trans hkey'

namespace EqualValues

theorem text_eq {text other : String} (h : EqualValues equals (.string text) (.string other)) :
    text = other := by
  cases h
  rfl

theorem eq_nil {items : List Value} (h : EqualValues equals (.array items) (.array [])) : items = [] := by
  cases h with
  | array hitems => exact List.forall₂_nil_right_iff.mp hitems

theorem numbers {numbers others : List Float}
    (h : EqualValues equals (numberArray numbers) (numberArray others)) :
    List.Forall₂ equals numbers others := by
  cases h with
  | array hitems =>
      rw [List.forall₂_map_left_iff, List.forall₂_map_right_iff] at hitems
      exact hitems.imp fun _ _ hnumber => by cases hnumber; assumption

end EqualValues

-- Numbers have nothing that may be left out.
theorem eq_of_omits_numberArray {mayLeave : String → Value → Prop} {numbers : List Float} {other : Value}
    (h : Omits mayLeave (numberArray numbers) other) : other = numberArray numbers := by
  cases h with
  | same => rfl
  | @array _ items hitems =>
      refine congrArg Value.array ?_
      rw [List.forall₂_map_left_iff] at hitems
      induction hitems with
      | nil => rfl
      | cons hitem _ ih =>
          cases hitem
          rw [ih, List.map_cons]

-- What is read for a field of numbers that may be left out: what was written, or the default that it equals.
def Restores {ν : Type} (equals : Float → Float → Prop) (entries : ν → List Float)
    (default original result : ν) : Prop :=
  result = original ∨ result = default ∧ List.Forall₂ equals (entries original) (entries default)

-- A field of numbers that is still there is read as it was written.
theorem readsAs_numbers {ν : Type} {mayLeave : String → Value → Prop} {read : Value → Option ν}
    {entries : ν → List Float} {original : ν} (hread : read (numberArray (entries original)) = some original)
    (default : ν) :
    ReadsAs mayLeave read (numberArray (entries original)) (Restores equals entries default original) := by
  intro other hother
  rw [eq_of_omits_numberArray hother]
  exact ⟨original, hread, .inl rfl⟩

theorem optional_numbers {ν : Type} {fields : String → Option Value} {read : Value → Option ν}
    {entries : ν → List Float} {original : ν}
    (h : Remains (IsDefault equals) fields key (numberArray (entries original))) (default : ν)
    (hread : read (numberArray (entries original)) = some original)
    (hkey : defaultOf? key = some (numberArray (entries default))) :
    ∃ result, optional fields key default read = some result ∧
      Restores equals entries default original result :=
  h.optional default (readsAs_numbers hread default) fun hleave =>
    .inr ⟨rfl, (hleave.equalValues hkey).numbers⟩

-- A list that may be left out where it is empty.
theorem optional_list {γ : Type} {fields : String → Option Value} {read : Value → Option γ}
    {encode : γ → Value} {expected : γ → γ → Prop} {entries : List γ}
    (h : Remains (IsDefault equals) fields key (.array (entries.map encode)))
    (hread : ∀ entry, ReadsAs (IsDefault equals) read (encode entry) (expected entry))
    (hkey : defaultOf? key = some (.array [])) :
    ∃ results, optional fields key [] (Value.list? read) = some results ∧
      List.Forall₂ expected entries results := by
  refine h.optional [] (.list hread entries) fun hleave => ?_
  rw [List.map_eq_nil_iff.mp (hleave.equalValues hkey).eq_nil]
  exact .nil

theorem vec3?_numberArray (v : Vec3 Float) : vec3? (numberArray v.toList) = some v := rfl

theorem quat?_numberArray (q : Quat Float) : quat? (numberArray q.toList) = some q := rfl

structure Placement.Restored (equals : Float → Float → Prop) (original result : Placement Float) : Prop where
  position : Restores equals Vec3.toList .zero original.position result.position
  orientation : Restores equals Quat.toList .identity original.orientation result.orientation

theorem Placement.readsAs (placement : Placement Float) :
    ReadsAs (IsDefault equals) decode? placement.encode (Placement.Restored equals placement) := by
  intro other hother
  obtain ⟨fields, hfields, hremains⟩ := hother.fields? ["position", "orientation"] rfl (by decide)
  simp only [List.forall_mem_cons] at hremains
  obtain ⟨hposition, horientation, -⟩ := hremains
  obtain ⟨position, hposition, hposition'⟩ := optional_numbers hposition .zero (vec3?_numberArray _) rfl
  obtain ⟨orientation, horientation, horientation'⟩ :=
    optional_numbers horientation .identity (quat?_numberArray _) rfl
  refine ⟨⟨position, orientation⟩, ?_, hposition', horientation'⟩
  simp [decode?, hfields, hposition, horientation]

-- A shape has a key of its own.
theorem Shape.decode?_encode (shape : Shape) : decode? shape.encode = some shape := by
  cases shape <;> rfl

theorem Shape.readsAs {mayLeave : String → Value → Prop} (shape : Shape) :
    ReadsAs mayLeave decode? shape.encode (· = shape) := by
  rintro _ ⟨⟩
  exact ⟨shape, shape.decode?_encode, rfl⟩

theorem Shape.eq_box_of_isDefault {shape : Shape} (h : IsDefault equals "kind" shape.encode) :
    shape = .box := by
  have hkey := (h.equalValues rfl).text_eq
  cases shape with
  | box => rfl
  | sphere | cylinder | cone => exact absurd hkey (by decide)

theorem Primitive.readsAs (primitive : Primitive Float) :
    ReadsAs (IsDefault equals) decode? primitive.encode (· = primitive) := by
  intro other hother
  obtain ⟨fields, hfields, hremains⟩ := hother.fields? ["kind", "dimensions"] rfl (by decide)
  simp only [List.forall_mem_cons] at hremains
  obtain ⟨hshape, hdimensions, -⟩ := hremains
  obtain ⟨shape, hshape, hshape'⟩ := hshape.optional .box (Shape.readsAs primitive.shape)
    fun hleave => (Shape.eq_box_of_isDefault hleave).symm
  obtain ⟨dimensions, hdimensions, hdimensions'⟩ := hdimensions.required
    (.list_eq .number primitive.dimensions) (not_isDefault rfl _)
  refine ⟨⟨shape, dimensions⟩, ?_, by rw [hshape', hdimensions']⟩
  simp [decode?, hfields, hshape, hdimensions]

-- The primitives are as they were, and so are the places of the placements.
structure Region.Restored (equals : Float → Float → Prop) (original result : Region Float) : Prop where
  primitives : result.primitives = original.primitives
  placements : List.Forall₂ (Placement.Restored equals) original.placements result.placements

theorem Region.readsAs (region : Region Float) :
    ReadsAs (IsDefault equals) decode? region.encode (Region.Restored equals region) := by
  intro other hother
  obtain ⟨fields, hfields, hremains⟩ := hother.fields? ["primitives", "primitive_poses"] rfl (by decide)
  simp only [List.forall_mem_cons] at hremains
  obtain ⟨hprimitives, hplacements, -⟩ := hremains
  obtain ⟨primitives, hprimitives, hprimitives'⟩ := hprimitives.optional []
    (.list_eq Primitive.readsAs region.primitives)
    fun hleave => (List.map_eq_nil_iff.mp (hleave.equalValues rfl).eq_nil).symm
  obtain ⟨placements, hplacements, hplacements'⟩ := optional_list hplacements Placement.readsAs rfl
  refine ⟨⟨primitives, placements⟩, ?_, hprimitives', hplacements'⟩
  simp [decode?, hfields, hprimitives, hplacements]

structure PositionEntry.Restored (equals : Float → Float → Prop)
    (original result : PositionEntry Float) : Prop where
  link : result.link = original.link
  region : original.region.Restored equals result.region

theorem PositionEntry.readsAs (entry : PositionEntry Float) :
    ReadsAs (IsDefault equals) decode? entry.encode (PositionEntry.Restored equals entry) := by
  intro other hother
  obtain ⟨fields, hfields, hremains⟩ := hother.fields? ["link_name", "constraint_region"] rfl (by decide)
  simp only [List.forall_mem_cons] at hremains
  obtain ⟨hlink, hregion, -⟩ := hremains
  obtain ⟨link, hlink, hlink'⟩ := hlink.required (.text entry.link) (not_isDefault rfl _)
  obtain ⟨region, hregion, hregion'⟩ := hregion.required entry.region.readsAs (not_isDefault rfl _)
  refine ⟨⟨link, region⟩, ?_, hlink', hregion'⟩
  simp [decode?, hfields, hlink, hregion]

structure OrientationEntry.Restored (equals : Float → Float → Prop)
    (original result : OrientationEntry Float) : Prop where
  link : result.link = original.link
  orientation : Restores equals Quat.toList .identity original.orientation result.orientation
  tolerances : result.tolerances = original.tolerances

theorem OrientationEntry.readsAs (entry : OrientationEntry Float) :
    ReadsAs (IsDefault equals) decode? entry.encode (OrientationEntry.Restored equals entry) := by
  intro other hother
  obtain ⟨fields, hfields, hremains⟩ :=
    hother.fields? (["link_name", "orientation"] ++ Axis.all.map toleranceKey) rfl (by decide)
  simp only [List.forall_mem_cons, List.cons_append, List.nil_append] at hremains
  obtain ⟨hlink, horientation, htolerances⟩ := hremains
  obtain ⟨link, hlink, hlink'⟩ := hlink.required (.text entry.link) (not_isDefault rfl _)
  obtain ⟨orientation, horientation, horientation'⟩ :=
    optional_numbers horientation .identity (quat?_numberArray _) rfl
  have htolerance : ∀ axis, required fields (toleranceKey axis) Value.number? =
      some (entry.tolerances.get axis) := by
    intro axis
    have haxis : axis ∈ Axis.all := by cases axis <;> decide
    have hkey : defaultOf? (toleranceKey axis) = none := by cases axis <;> rfl
    obtain ⟨_, hread, rfl⟩ := (htolerances _ (List.mem_map.mpr ⟨axis, haxis, rfl⟩)).required
      (.number _) (not_isDefault hkey _)
    exact hread
  have htolerances : Vec3.ofAxesM (fun axis => required fields (toleranceKey axis) Value.number?) =
      some entry.tolerances := by
    simp only [Vec3.ofAxesM, htolerance]
    rfl
  refine ⟨⟨link, orientation, entry.tolerances⟩, ?_, hlink', horientation', rfl⟩
  simp only [decode?, hfields, Option.bind_eq_bind, Option.bind_some, hlink, horientation, htolerances]
  rfl

structure Description.Restored (equals : Float → Float → Prop)
    (original result : Description Float) : Prop where
  name : result.name = original.name
  positions : List.Forall₂ (PositionEntry.Restored equals) original.positions result.positions
  orientations : List.Forall₂ (OrientationEntry.Restored equals) original.orientations result.orientations

-- A description is read from what it is written as, with any of its defaults left out, as it was up to
-- the numbers that stand for defaults.
theorem Description.readsAs (description : Description Float) :
    ReadsAs (IsDefault equals) decode? description.encode (Description.Restored equals description) := by
  intro other hother
  obtain ⟨fields, hfields, hremains⟩ :=
    hother.fields? ["name", "position_constraints", "orientation_constraints"] rfl (by decide)
  simp only [List.forall_mem_cons] at hremains
  obtain ⟨hname, hpositions, horientations, -⟩ := hremains
  obtain ⟨name, hname, hname'⟩ := hname.optional "" (.text description.name)
    fun hleave => (hleave.equalValues rfl).text_eq.symm
  obtain ⟨positions, hpositions, hpositions'⟩ := optional_list hpositions PositionEntry.readsAs rfl
  obtain ⟨orientations, horientations, horientations'⟩ :=
    optional_list horientations OrientationEntry.readsAs rfl
  refine ⟨⟨name, positions, orientations⟩, ?_, hname', hpositions', horientations'⟩
  simp [decode?, hfields, hname, hpositions, horientations]

section Numbers

variable {α : Type}

def Placement.numbers (placement : Placement α) : List α :=
  placement.position.toList ++ placement.orientation.toList

def Region.numbers (region : Region α) : List α :=
  region.primitives.flatMap Primitive.dimensions ++ region.placements.flatMap Placement.numbers

def OrientationEntry.numbers (entry : OrientationEntry α) : List α :=
  entry.orientation.toList ++ entry.tolerances.toList

def Description.numbers (description : Description α) : List α :=
  description.positions.flatMap (fun entry => entry.region.numbers) ++
    description.orientations.flatMap OrientationEntry.numbers

end Numbers

-- What compares equal to itself: everything that has no NaN in it.
section Comparison

abbrev AreNumbers (entries : List Float) : Prop := ∀ entry ∈ entries, ExtendedScalar.isNaN entry = false

theorem beq_of_forall₂ {β : Type} [BEq β] {related : β → β → Prop} {originals results : List β}
    (h : List.Forall₂ related originals results)
    (hbeq : ∀ original ∈ originals, ∀ result, related original result → (result == original) = true) :
    (results == originals) = true := by
  induction h with
  | nil => rfl
  | cons hfirst _ ih =>
      rw [List.cons_beq_cons, Bool.and_eq_true]
      exact ⟨hbeq _ List.mem_cons_self _ hfirst,
        ih fun original horiginal => hbeq original (.tail _ horiginal)⟩

theorem beq_self_of_numbers {entries : List Float} (h : AreNumbers entries) : (entries == entries) = true :=
  beq_of_forall₂ (List.forall₂_same.mpr fun _ _ => rfl) fun original horiginal _ heq =>
    heq ▸ Double.beq_self (h original horiginal)

abbrev EqualNumbers (a b : Float) : Prop := (a == b) = true

theorem Restores.beq {ν : Type} {entries : ν → List Float} {default original result : ν}
    (h : Restores EqualNumbers entries default original result) (hnumbers : AreNumbers (entries original)) :
    (entries result == entries original) = true := by
  rcases h with rfl | ⟨rfl, hequal⟩
  · exact beq_self_of_numbers hnumbers
  · exact beq_of_forall₂ hequal fun _ _ _ => Double.beq_symm

theorem beq_of_toList_vec3 {v w : Vec3 Float} (h : (v.toList == w.toList) = true) : (v == w) = true := by
  change (v.x == w.x && (v.y == w.y && v.z == w.z)) = true
  simpa [Vec3.toList] using h

theorem beq_of_toList_quat {p q : Quat Float} (h : (p.toList == q.toList) = true) : (p == q) = true := by
  change (p.x == q.x && (p.y == q.y && (p.z == q.z && p.w == q.w))) = true
  simpa [Quat.toList] using h

theorem Placement.Restored.beq {original result : Placement Float}
    (h : original.Restored EqualNumbers result) (hnumbers : AreNumbers original.numbers) : (result == original) = true := by
  obtain ⟨hposition, horientation⟩ := List.forall_mem_append.mp hnumbers
  exact Bool.and_eq_true_iff.mpr ⟨beq_of_toList_vec3 (h.position.beq hposition),
    beq_of_toList_quat (h.orientation.beq horientation)⟩

theorem Primitive.beq_self {primitive : Primitive Float} (hnumbers : AreNumbers primitive.dimensions) :
    (primitive == primitive) = true :=
  Bool.and_eq_true_iff.mpr ⟨beq_self_eq_true _, beq_self_of_numbers hnumbers⟩

theorem Region.Restored.beq {original result : Region Float} (h : original.Restored EqualNumbers result)
    (hnumbers : AreNumbers original.numbers) : (result == original) = true := by
  obtain ⟨hprimitives, hplacements⟩ := List.forall_mem_append.mp hnumbers
  rw [List.forall_mem_flatMap] at hprimitives hplacements
  refine Bool.and_eq_true_iff.mpr ⟨?_, ?_⟩
  · rw [h.primitives]
    exact beq_of_forall₂ (List.forall₂_same.mpr fun _ _ => rfl) fun primitive hprimitive _ heq =>
      heq ▸ Primitive.beq_self (hprimitives primitive hprimitive)
  · exact beq_of_forall₂ h.placements fun placement hplacement _ hrestored =>
      hrestored.beq (hplacements placement hplacement)

theorem PositionEntry.Restored.beq {original result : PositionEntry Float}
    (h : original.Restored EqualNumbers result) (hnumbers : AreNumbers original.region.numbers) :
    (result == original) = true :=
  Bool.and_eq_true_iff.mpr ⟨beq_iff_eq.mpr h.link, h.region.beq hnumbers⟩

theorem OrientationEntry.Restored.beq {original result : OrientationEntry Float}
    (h : original.Restored EqualNumbers result) (hnumbers : AreNumbers original.numbers) :
    (result == original) = true := by
  obtain ⟨horientation, htolerances⟩ := List.forall_mem_append.mp hnumbers
  refine Bool.and_eq_true_iff.mpr ⟨beq_iff_eq.mpr h.link, Bool.and_eq_true_iff.mpr ⟨?_, ?_⟩⟩
  · exact beq_of_toList_quat (h.orientation.beq horientation)
  · rw [h.tolerances]
    exact beq_of_toList_vec3 (beq_self_of_numbers htolerances)

theorem Description.Restored.beq {original result : Description Float}
    (h : original.Restored EqualNumbers result) (hnumbers : AreNumbers original.numbers) : (result == original) = true := by
  obtain ⟨hpositions, horientations⟩ := List.forall_mem_append.mp hnumbers
  rw [List.forall_mem_flatMap] at hpositions horientations
  refine Bool.and_eq_true_iff.mpr ⟨beq_iff_eq.mpr h.name, Bool.and_eq_true_iff.mpr ⟨?_, ?_⟩⟩
  · exact beq_of_forall₂ h.positions fun entry hentry _ hrestored => hrestored.beq (hpositions entry hentry)
  · exact beq_of_forall₂ h.orientations fun entry hentry _ hrestored =>
      hrestored.beq (horientations entry hentry)

end Comparison

-- Where a default is left out only for the very same numbers, nothing changes.
section Exactness

theorem Restores.eq {ν : Type} {entries : ν → List Float} {default original result : ν}
    (h : Restores Eq entries default original result) (hentries : Function.Injective entries) :
    result = original := by
  rcases h with rfl | ⟨rfl, hequal⟩
  · rfl
  · rw [List.forall₂_eq_eq_eq] at hequal
    exact (hentries hequal).symm

theorem eq_of_forall₂ {β : Type} {related : β → β → Prop} {originals results : List β}
    (h : List.Forall₂ related originals results) (heq : ∀ {original result}, related original result →
      result = original) : results = originals := by
  have hall := h.imp fun _ _ hrelated => (heq hrelated).symm
  rw [List.forall₂_eq_eq_eq] at hall
  exact hall.symm

theorem toList_injective_vec3 : Function.Injective (Vec3.toList : Vec3 Float → List Float) := by
  rintro ⟨x, y, z⟩ ⟨x', y', z'⟩ ⟨⟩
  rfl

theorem toList_injective_quat : Function.Injective (Quat.toList : Quat Float → List Float) := by
  rintro ⟨x, y, z, w⟩ ⟨x', y', z', w'⟩ ⟨⟩
  rfl

theorem Placement.Restored.eq {original result : Placement Float} (h : original.Restored Eq result) :
    result = original := by
  obtain ⟨position, orientation⟩ := result
  obtain rfl := h.position.eq toList_injective_vec3
  obtain rfl := h.orientation.eq toList_injective_quat
  rfl

theorem PositionEntry.Restored.eq {original result : PositionEntry Float} (h : original.Restored Eq result) :
    result = original := by
  obtain ⟨link, primitives, placements⟩ := result
  obtain ⟨rfl, rfl, hplacements⟩ := h
  obtain rfl := eq_of_forall₂ hplacements Placement.Restored.eq
  rfl

theorem OrientationEntry.Restored.eq {original result : OrientationEntry Float}
    (h : original.Restored Eq result) : result = original := by
  obtain ⟨link, orientation, tolerances⟩ := result
  obtain ⟨rfl, horientation, rfl⟩ := h
  obtain rfl := horientation.eq toList_injective_quat
  rfl

theorem Description.Restored.eq {original result : Description Float} (h : original.Restored Eq result) :
    result = original := by
  obtain ⟨name, positions, orientations⟩ := result
  obtain ⟨rfl, hpositions, horientations⟩ := h
  obtain rfl := eq_of_forall₂ hpositions PositionEntry.Restored.eq
  obtain rfl := eq_of_forall₂ horientations OrientationEntry.Restored.eq
  rfl

end Exactness

end TaskSpace.Constraints
