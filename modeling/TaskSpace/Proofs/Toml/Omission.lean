import Mathlib
import TaskSpace.Toml.Value

namespace TaskSpace.Toml

mutual

-- A value with entries of its tables left out, at any depth. The key and the value of an entry decide
-- whether it may be left out.
inductive Omits (mayLeave : String → Value → Prop) : Value → Value → Prop
  | same (value : Value) : Omits mayLeave value value
  | array {items others : List Value} (hitems : List.Forall₂ (Omits mayLeave) items others) :
      Omits mayLeave (.array items) (.array others)
  | table {entries others : List (String × Value)} (hentries : OmitsEntries mayLeave entries others) :
      Omits mayLeave (.table entries) (.table others)

inductive OmitsEntries (mayLeave : String → Value → Prop) :
    List (String × Value) → List (String × Value) → Prop
  | nil : OmitsEntries mayLeave [] []
  | keep {key : String} {value other : Value} {entries others : List (String × Value)}
      (hvalue : Omits mayLeave value other) (hentries : OmitsEntries mayLeave entries others) :
      OmitsEntries mayLeave ((key, value) :: entries) ((key, other) :: others)
  | leave {key : String} {value : Value} {entries others : List (String × Value)}
      (hleave : mayLeave key value) (hentries : OmitsEntries mayLeave entries others) :
      OmitsEntries mayLeave ((key, value) :: entries) others

end

-- A field that is still there, with entries left out of its value, or that is left out itself.
inductive Remains (mayLeave : String → Value → Prop) (fields : String → Option Value) (key : String)
    (value : Value) : Prop
  | kept {other : Value} (hfield : fields key = some other) (hvalue : Omits mayLeave value other)
  | left (hfield : fields key = none) (hleave : mayLeave key value)

variable {mayLeave : String → Value → Prop} {β : Type}

namespace OmitsEntries

theorem refl (entries : List (String × Value)) : OmitsEntries mayLeave entries entries := by
  induction entries with
  | nil => exact .nil
  | cons entry entries ih => exact .keep (.same entry.2) ih

theorem lookup_eq_none {entries others : List (String × Value)} (h : OmitsEntries mayLeave entries others)
    {key : String} (hkey : key ∉ entries.map Prod.fst) : others.lookup key = none := by
  induction entries generalizing others with
  | nil =>
      cases h
      rfl
  | cons entry entries ih =>
      rw [List.map_cons, List.mem_cons, not_or] at hkey
      cases h with
      | keep hvalue hentries => rw [List.lookup_cons, beq_false_of_ne hkey.1, ih hentries hkey.2]
      | leave hleave hentries => exact ih hentries hkey.2

-- Where keys are distinct, no other entry takes the place of one that is left out.
theorem remains {entries others : List (String × Value)} (h : OmitsEntries mayLeave entries others)
    (hkeys : (entries.map Prod.fst).Nodup) {key : String} {value : Value}
    (hentry : (key, value) ∈ entries) :
    Remains mayLeave (fun key => others.lookup key) key value := by
  induction entries generalizing others with
  | nil => cases hentry
  | cons first entries ih =>
      rw [List.map_cons, List.nodup_cons] at hkeys
      cases hentry with
      | head =>
          cases h with
          | keep hvalue hentries => exact .kept List.lookup_cons_self hvalue
          | leave hleave hentries => exact .left (hentries.lookup_eq_none hkeys.1) hleave
      | tail _ hentry =>
          cases h with
          | leave hleave hentries => exact ih hentries hkeys.2 hentry
          | @keep first _ other _ others hvalue hentries =>
              have hne : key ≠ first := fun heq => hkeys.1 (heq ▸ List.mem_map.mpr ⟨_, hentry, rfl⟩)
              have hlookup : ((first, other) :: others).lookup key = others.lookup key := by
                rw [List.lookup_cons, beq_false_of_ne hne]
              cases ih hentries hkeys.2 hentry with
              | kept hfield hvalue => exact .kept (hlookup.trans hfield) hvalue
              | left hfield hleave => exact .left (hlookup.trans hfield) hleave

end OmitsEntries

-- Whatever may be left out of a value is left out: it is read, and what is read is as expected.
def ReadsAs (mayLeave : String → Value → Prop) (read : Value → Option β) (value : Value)
    (expected : β → Prop) : Prop :=
  ∀ other, Omits mayLeave value other → ∃ result, read other = some result ∧ expected result

namespace Remains

variable {fields : String → Option Value} {key : String} {value : Value} {read : Value → Option β}
  {expected : β → Prop}

theorem optional (h : Remains mayLeave fields key value) (default : β)
    (hread : ReadsAs mayLeave read value expected) (hdefault : mayLeave key value → expected default) :
    ∃ result, Toml.optional fields key default read = some result ∧ expected result := by
  unfold Toml.optional
  cases h with
  | kept hfield hvalue =>
      rw [hfield]
      exact hread _ hvalue
  | left hfield hleave =>
      rw [hfield]
      exact ⟨default, rfl, hdefault hleave⟩

theorem required (h : Remains mayLeave fields key value) (hread : ReadsAs mayLeave read value expected)
    (hstays : ¬mayLeave key value) :
    ∃ result, Toml.required fields key read = some result ∧ expected result := by
  cases h with
  | kept hfield hvalue =>
      rw [Toml.required, hfield]
      exact hread _ hvalue
  | left hfield hleave => exact absurd hleave hstays

end Remains

namespace ReadsAs

theorem text (text : String) : ReadsAs mayLeave Value.text? (.string text) (· = text) := by
  rintro _ ⟨⟩
  exact ⟨text, rfl, rfl⟩

theorem number (number : Float) : ReadsAs mayLeave Value.number? (.float number) (· = number) := by
  rintro _ ⟨⟩
  exact ⟨number, rfl, rfl⟩

-- The items of an array stay, each with what may be left out of it.
theorem list {γ : Type} {read : Value → Option β} {encode : γ → Value} {expected : γ → β → Prop}
    (hread : ∀ entry, ReadsAs mayLeave read (encode entry) (expected entry)) (entries : List γ) :
    ReadsAs mayLeave (Value.list? read) (.array (entries.map encode)) (List.Forall₂ expected entries) := by
  have hmapM : ∀ items, List.Forall₂ (Omits mayLeave) (entries.map encode) items →
      ∃ results, items.mapM read = some results ∧ List.Forall₂ expected entries results := by
    intro items hitems
    induction entries generalizing items with
    | nil =>
        cases hitems
        exact ⟨[], rfl, .nil⟩
    | cons entry entries ih =>
        cases hitems with
        | cons hitem hitems =>
            obtain ⟨result, hresult, hexpected⟩ := hread entry _ hitem
            obtain ⟨results, hresults, hall⟩ := ih _ hitems
            exact ⟨result :: results, by simp [List.mapM_cons, hresult, hresults], .cons hexpected hall⟩
  intro other hother
  cases hother with
  | same => exact hmapM _ (List.forall₂_same.mpr fun item _ => .same item)
  | array hitems => exact hmapM _ hitems

theorem list_eq {γ : Type} {read : Value → Option γ} {encode : γ → Value}
    (hread : ∀ entry, ReadsAs mayLeave read (encode entry) (· = entry)) (entries : List γ) :
    ReadsAs mayLeave (Value.list? read) (.array (entries.map encode)) (· = entries) := by
  intro other hother
  obtain ⟨results, hresults, hall⟩ := list hread entries other hother
  have heq : List.Forall₂ Eq results entries := hall.flip
  rw [List.forall₂_eq_eq_eq] at heq
  exact ⟨results, hresults, heq⟩

end ReadsAs

-- A record with all its fields in their order.
theorem Omits.fields? {entries : List (String × Value)} {other : Value}
    (h : Omits mayLeave (.table entries) other) (names : List String) (hnames : entries.map Prod.fst = names) (hnodup : names.Nodup) :
    ∃ fields, other.fields? names = some fields ∧
      ∀ entry ∈ entries, Remains mayLeave fields entry.1 entry.2 := by
  subst hnames
  cases h with
  | same => exact ⟨_, rfl, fun entry hentry => (OmitsEntries.refl entries).remains hnodup hentry⟩
  | table hentries => exact ⟨_, rfl, fun entry hentry => hentries.remains hnodup hentry⟩

end TaskSpace.Toml
