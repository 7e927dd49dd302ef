/-!
Identifiers name the handler a frame is meant for; one of them is set aside for session control.
A table over identifiers holds at most one entry for each of them.
-/
namespace AltBit

/-- The first header byte of a frame. -/
abbrev Identifier := UInt8

namespace Identifier

def sessionControl : Identifier := 1

def isReserved (id : Identifier) : Bool := id == sessionControl

def name (id : Identifier) : String :=
  if id.isReserved then "SESSION_CONTROL" else "USER"

/-- Every identifier, ascending. -/
def all : List Identifier := (List.range 256).map UInt8.ofNat

theorem mem_all (id : Identifier) : id ∈ all :=
  List.mem_map.mpr ⟨id.toNat, List.mem_range.mpr id.toNat_lt, UInt8.ofNat_toNat⟩

end Identifier

/-- At most one entry for each identifier. -/
structure IdTable (α : Type) where
  slots : Vector (Option α) 256

namespace IdTable
variable {α : Type}

def empty : IdTable α := ⟨Vector.replicate 256 none⟩

def get? (t : IdTable α) (id : Identifier) : Option α :=
  have := id.toNat_lt
  t.slots[id.toNat]

def put (t : IdTable α) (id : Identifier) (entry : Option α) : IdTable α :=
  ⟨t.slots.set id.toNat entry id.toNat_lt⟩

def insert (t : IdTable α) (id : Identifier) (a : α) : IdTable α := t.put id (some a)

def erase (t : IdTable α) (id : Identifier) : IdTable α := t.put id none

def contains (t : IdTable α) (id : Identifier) : Bool := (t.get? id).isSome

/-- The identifiers that have an entry, ascending. -/
def ids (t : IdTable α) : List Identifier := Identifier.all.filter t.contains

def size (t : IdTable α) : Nat := t.ids.length

@[simp] theorem get?_empty (id : Identifier) : (empty : IdTable α).get? id = none := by
  simp [empty, get?]

theorem get?_put (t : IdTable α) (id : Identifier) (entry : Option α) (j : Identifier) :
    (t.put id entry).get? j = if j = id then entry else t.get? j := by
  by_cases h : j = id
  · subst h
    simp [put, get?]
  · have hn : id.toNat ≠ j.toNat := fun e => h (UInt8.toNat_inj.mp e.symm)
    simp [put, get?, h, hn]

theorem get?_insert (t : IdTable α) (id : Identifier) (a : α) (j : Identifier) :
    (t.insert id a).get? j = if j = id then some a else t.get? j :=
  t.get?_put id (some a) j

theorem insert_eq_self {t : IdTable α} {id : Identifier} {a : α} (h : t.get? id = some a) :
    t.insert id a = t := by
  have hlt := id.toNat_lt
  have hslot : t.slots[id.toNat] = some a := h
  rw [insert, put, ← hslot, Vector.set_getElem_self]

theorem get?_erase (t : IdTable α) (id j : Identifier) :
    (t.erase id).get? j = if j = id then none else t.get? j :=
  t.get?_put id none j

@[simp] theorem mem_ids (t : IdTable α) (id : Identifier) :
    id ∈ t.ids ↔ (t.get? id).isSome := by
  simp [ids, contains, Identifier.mem_all]

end IdTable

end AltBit
