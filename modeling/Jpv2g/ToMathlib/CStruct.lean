import Mathlib.Data.List.GetD
import Mathlib.Data.Setoid.Basic
import Mathlib.Order.CompletePartialOrder

/-!
# Structures as an Encoder Reads Them

An encoder of generated C structures reads every mandatory member, an optional member only when
its flag is set, and of an array only the cells that are counted. What the other cells hold does
not matter to it, so they may be left as the memory was found.

## Main definitions

* `Agree`: an encoder reads the same of two values.
* `Member`: an optional member with its flag.
* `Counted`: an array with the number of its cells in use.

## Main results

* `Member.agree_store`, `Counted.agree_copy`: what was stored is read, whatever was there before.
-/

namespace CStruct

/-- What an encoder reads of the values of a type. -/
class Encoded (α : Type) where
  /-- The values of which it reads the same. -/
  agree : Setoid α

/-- An encoder reads the same of both values. -/
def Agree {α : Type} [Encoded α] (a b : α) : Prop :=
  (Encoded.agree : Setoid α) a b

namespace Encoded

/-- A scalar is read as it is. -/
@[reducible]
def scalar (α : Type) : Encoded α := ⟨⊥⟩

/-- A structure is read through the members that `f` lists. -/
@[reducible]
def through {α β : Type} [Encoded α] (f : β → α) : Encoded β := ⟨Setoid.comap f Encoded.agree⟩

instance : Encoded ℤ := scalar ℤ

instance : Encoded Char := scalar Char

instance : Encoded UInt8 := scalar UInt8

instance {α β : Type} [Encoded α] [Encoded β] : Encoded (α × β) :=
  ⟨Setoid.prod Encoded.agree Encoded.agree⟩

/-- One of two documents, of which an encoder knows which it is given. -/
instance {α β : Type} [Encoded α] [Encoded β] : Encoded (α ⊕ β) where
  agree :=
    { r := Sum.LiftRel (Encoded.agree : Setoid α) (Encoded.agree : Setoid β)
      iseqv :=
        { refl := fun x => by cases x <;> constructor <;> exact Setoid.refl' _ _
          symm := fun h => by cases h <;> constructor <;> exact Setoid.symm' _ ‹_›
          trans := fun h h' => by
            cases h <;> cases h' <;> constructor <;> exact Setoid.trans' _ ‹_› ‹_› } }

/-- A document, when there is one. -/
instance {α : Type} [Encoded α] : Encoded (Option α) where
  agree :=
    { r := Option.Rel (Encoded.agree : Setoid α)
      iseqv :=
        { refl := fun x => by cases x <;> constructor; exact Setoid.refl' _ _
          symm := fun h => by cases h <;> constructor; exact Setoid.symm' _ ‹_›
          trans := fun h h' => by
            cases h <;> cases h' <;> constructor; exact Setoid.trans' _ ‹_› ‹_› } }

end Encoded

section Agree

variable {α β : Type} [Encoded α]

@[simp, refl]
theorem Agree.refl (a : α) : Agree a a :=
  Setoid.refl' _ a

@[symm]
theorem Agree.symm {a b : α} (h : Agree a b) : Agree b a :=
  Setoid.symm' _ h

theorem Agree.trans {a b c : α} (hab : Agree a b) (hbc : Agree b c) : Agree a c :=
  Setoid.trans' _ hab hbc

@[simp]
theorem agree_scalar {a b : β} : @Agree β (Encoded.scalar β) a b ↔ a = b :=
  Iff.rfl

/-- Unfold a structure into its members; tried only when no lemma is about the whole value. -/
@[simp low]
theorem agree_through {f : β → α} {a b : β} :
    @Agree β (Encoded.through f) a b ↔ Agree (f a) (f b) :=
  Iff.rfl

@[simp]
theorem agree_prod [Encoded β] {a b : α × β} : Agree a b ↔ Agree a.1 b.1 ∧ Agree a.2 b.2 :=
  Iff.rfl

@[simp]
theorem agree_inl [Encoded β] {a b : α} :
    Agree (Sum.inl a : α ⊕ β) (Sum.inl b) ↔ Agree a b :=
  Sum.liftRel_inl_inl

@[simp]
theorem agree_inr [Encoded β] {a b : β} :
    Agree (Sum.inr a : α ⊕ β) (Sum.inr b) ↔ Agree a b :=
  Sum.liftRel_inr_inr

@[simp]
theorem agree_some {a b : α} : Agree (some a) (some b) ↔ Agree a b :=
  Option.rel_some_some

/-- A document that may be missing is read through a function that keeps what is read. -/
theorem agree_map [Encoded β] {f : α → β} (hf : ∀ a b, Agree (f a) (f b) ↔ Agree a b)
    (o o' : Option α) : Agree (o.map f) (o'.map f) ↔ Agree o o' := by
  constructor
  · intro h
    cases o with
    | none => cases o' with
      | none => exact .refl none
      | some b => cases h
    | some a => cases o' with
      | none => cases h
      | some b => exact agree_some.mpr ((hf a b).mp (agree_some.mp h))
  · intro h
    cases h with
    | none => exact Agree.refl none
    | some h => exact agree_some.mpr ((hf _ _).mpr h)

end Agree

/-! ## Optional members -/

/-- An optional member: the flag `isUsed` says whether an encoder reads the value. -/
structure Member (α : Type) where
  isUsed : Bool
  value : α
deriving Inhabited

namespace Member

variable {α : Type}

/-- Reset the flag, and leave the value as it is. -/
def clear (m : Member α) : Member α :=
  { m with isUsed := false }

/-- Store a value and set the flag. -/
def store (value : α) : Member α :=
  { isUsed := true, value }

/-- The member a value is taken from that may be absent, over the value found there. -/
def ofOption (m : Member α) : Option α → Member α
  | some value => store value
  | none => m.clear

variable [Encoded α]

instance : Encoded (Member α) where
  agree :=
    { r := fun m m' => m.isUsed = m'.isUsed ∧ (m.isUsed = true → Agree m.value m'.value)
      iseqv :=
        { refl := fun _ => ⟨rfl, fun _ => .refl _⟩
          symm := fun h => ⟨h.1.symm, fun hused => (h.2 (h.1 ▸ hused)).symm⟩
          trans := fun h h' =>
            ⟨h.1.trans h'.1, fun hused => (h.2 hused).trans (h'.2 (h.1 ▸ hused))⟩ } }

theorem agree_iff {m m' : Member α} :
    Agree m m' ↔ m.isUsed = m'.isUsed ∧ (m.isUsed = true → Agree m.value m'.value) :=
  Iff.rfl

/-- Nothing is read of a cleared member. -/
@[simp]
theorem agree_clear (m m' : Member α) : Agree m.clear m'.clear := by
  rw [agree_iff]
  exact ⟨rfl, fun hused => absurd hused Bool.false_ne_true⟩

/-- Of a member in use its value is read. -/
@[simp]
theorem agree_store {value value' : α} :
    Agree (store value) (store value') ↔ Agree value value' := by
  rw [agree_iff]
  exact ⟨fun h => h.2 rfl, fun h => ⟨rfl, fun _ => h⟩⟩

@[simp]
theorem agree_ofOption (m m' : Member α) (value : Option α) :
    Agree (m.ofOption value) (m'.ofOption value) := by
  cases value with
  | none => exact agree_clear m m'
  | some value => exact Agree.refl (store value)

end Member

/-! ## Counted arrays -/

/-- An array of which `len` cells are in use. -/
structure Counted (α : Type) where
  cells : ℕ → α
  len : ℕ
deriving Inhabited

namespace Counted

variable {α : Type}

/-- Reset the count, and leave the cells as they are. -/
def clear (c : Counted α) : Counted α :=
  { c with len := 0 }

/-- Copy a list to the front of the array and count it. -/
def copy (c : Counted α) (src : List α) : Counted α :=
  { cells := fun i => src.getD i (c.cells i), len := src.length }

/-- Store a value in the first cell and count it alone. -/
def single (c : Counted α) (value : α) : Counted α :=
  { cells := Function.update c.cells 0 value, len := 1 }

/-- The cells in use. -/
def toList (c : Counted α) : List α := (List.range c.len).map c.cells

@[simp]
theorem toList_copy (c : Counted α) (src : List α) : (c.copy src).toList = src := by
  refine List.ext_getElem (by simp [toList, copy]) fun i _ hi => ?_
  simp [toList, copy, List.getElem?_eq_getElem hi]

variable [Encoded α]

instance : Encoded (Counted α) where
  agree :=
    { r := fun c c' => c.len = c'.len ∧ ∀ i < c.len, Agree (c.cells i) (c'.cells i)
      iseqv :=
        { refl := fun _ => ⟨rfl, fun _ _ => .refl _⟩
          symm := fun h => ⟨h.1.symm, fun i hi => (h.2 i (h.1 ▸ hi)).symm⟩
          trans := fun h h' =>
            ⟨h.1.trans h'.1, fun i hi => (h.2 i hi).trans (h'.2 i (h.1 ▸ hi))⟩ } }

theorem agree_iff {c c' : Counted α} :
    Agree c c' ↔ c.len = c'.len ∧ ∀ i < c.len, Agree (c.cells i) (c'.cells i) :=
  Iff.rfl

/-- Nothing is read of an empty array. -/
@[simp]
theorem agree_clear (c c' : Counted α) : Agree c.clear c'.clear := by
  rw [agree_iff]
  exact ⟨rfl, fun i hi => absurd hi (Nat.not_lt_zero i)⟩

/-- The counted cells are the ones that were copied. -/
@[simp]
theorem agree_copy (c c' : Counted α) (src : List α) : Agree (c.copy src) (c'.copy src) := by
  rw [agree_iff]
  refine ⟨rfl, ?_⟩
  intro i hi
  have hi' : i < src.length := hi
  -- below the count, what was in the cell before is not read
  show Agree (src.getD i (c.cells i)) (src.getD i (c'.cells i))
  rw [List.getD_eq_getElem _ _ hi', List.getD_eq_getElem _ _ hi']

/-- Of a single cell its value is read. -/
@[simp]
theorem agree_single {c c' : Counted α} {value value' : α} :
    Agree (c.single value) (c'.single value') ↔ Agree value value' := by
  have hcell (d : Counted α) (v : α) : (d.single v).cells 0 = v := by
    simp [single]
  rw [agree_iff]
  constructor
  · intro h
    have h0 := h.2 0 Nat.zero_lt_one
    rwa [hcell, hcell] at h0
  · intro h
    refine ⟨rfl, ?_⟩
    intro i hi
    obtain rfl : i = 0 := Nat.lt_one_iff.mp hi
    rwa [hcell, hcell]

end Counted

end CStruct
