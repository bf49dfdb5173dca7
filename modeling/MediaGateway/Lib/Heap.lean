import Mathlib.Data.List.Basic

/-!
# Objects that are allocated and freed

A `Heap` keeps every object that was ever allocated, in order, with a mark on those that
have been freed.  A pointer is the position of its object, so no pointer is given out
twice, and one to a freed object still says which object it was.
-/

namespace MediaGateway.Lib

structure Object (α : Type) where
  value : α
  freed : Bool
  deriving DecidableEq, Repr

abbrev Heap (α : Type) := List (Object α)

namespace Heap

variable {α : Type}

/-- A new object, and its pointer. -/
def alloc (h : Heap α) (value : α) : Heap α × Nat := (h ++ [{ value, freed := false }], h.length)

def free (h : Heap α) (p : Nat) : Heap α := h.modify p fun o => { o with freed := true }

/-- What a pointer is to, while that is still allocated. -/
def deref (h : Heap α) (p : Nat) : Option α :=
  match h[p]? with
  | some o => if o.freed then none else some o.value
  | none => none

/-- What a pointer is or was to. -/
def value? (h : Heap α) (p : Nat) : Option α := (h[p]?).map Object.value

@[simp] theorem alloc_snd (h : Heap α) (value : α) : (h.alloc value).2 = h.length := rfl

@[simp] theorem deref_alloc (h : Heap α) (value : α) :
    (h.alloc value).1.deref h.length = some value := by
  simp [alloc, deref]

/-- An object that is freed at once. -/
theorem free_alloc (h : Heap α) (value : α) :
    (h.alloc value).1.free h.length = h ++ [{ value, freed := true }] := by
  have hlt : h.length < (h ++ [({ value, freed := false } : Object α)]).length := by simp
  simp only [alloc, free]
  rw [List.modify_eq_take_cons_drop hlt]
  simp

@[simp] theorem value?_append_cons (h os : Heap α) (o : Object α) :
    value? (h ++ o :: os) h.length = some o.value := by
  simp [value?]

/-- A pointer to an object that was freed is to nothing. -/
theorem deref_append_cons (h os : Heap α) (value : α) :
    deref (h ++ { value, freed := true } :: os) h.length = none := by
  simp [deref]

end Heap

end MediaGateway.Lib
