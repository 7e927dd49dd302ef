import AltBit.Socket.Listener

/-!
Paths in a tree of files. What matters of a place is whether nothing or a socket stands there: then
changing it changes no other way, so the path leads there as before, and creating a file, setting
its mode and removing it all act on that one place.
-/
namespace AltBit

/-- Two steps succeed one after the other if each of them does. -/
theorem bind_eq_ok_iff {ε α β : Type} {x : Except ε α} {f : α → Except ε β} {b : β} :
    (x >>= f) = .ok b ↔ ∃ a, x = .ok a ∧ f a = .ok b := by
  cases x <;> simp [bind, Except.bind]

namespace FileTree

/-- Nothing stands at the location, or a socket. -/
def Bindable (t : FileTree) (location : Location) : Prop :=
  ∀ file ∈ t.file? location, file.kind = .socket

variable {t t' : FileTree} {location : Location} {path : String}

theorem Bindable.of_none (h : t.file? location = none) : t.Bindable location := by
  simp [Bindable, h]

theorem Bindable.of_some {file : File} (h : t.file? location = some file)
    (hkind : file.kind = .socket) : t.Bindable location := by
  simp [Bindable, h, hkind]

theorem Bindable.ne {here : Location} {file : File} (h : t.Bindable location)
    (hfile : t.file? here = some file) (hkind : file.kind ≠ .socket) : here ≠ location := by
  rintro rfl
  exact hkind (h file hfile)

/-- A name that stands for an entry of a directory. -/
def IsEntry (name : String) : Prop := name ≠ "." ∧ name ≠ ".." ∧ ¬255 < name.utf8ByteSize

section
variable {name : String} (hname : IsEntry name) {followLast : Bool} {links : Nat}
  {directory : Location} {rest : List String}
include hname

theorem walk_end (h : t.Bindable (directory ++ [name])) :
    t.walk followLast links directory [name] = .ok (directory ++ [name]) := by
  rcases hfile : t.file? (directory ++ [name]) with _ | ⟨kind, mode, number⟩
  · simp [walk, hname.1, hname.2.1, hname.2.2, hfile]
  · obtain rfl : kind = .socket := h _ hfile
    simp [walk, hname.1, hname.2.1, hname.2.2, hfile]

theorem walk_into {mode number : Nat}
    (h : t.file? (directory ++ [name]) = some ⟨.directory, mode, number⟩) :
    t.walk followLast links directory (name :: rest) =
      t.walk followLast links (directory ++ [name]) rest := by
  rw [walk]
  simp [hname.1, hname.2.1, hname.2.2, h]

theorem walk_along {target : String} {mode number : Nat}
    (h : t.file? (directory ++ [name]) = some ⟨.symlink target, mode, number⟩)
    (hrest : rest ≠ []) :
    t.walk followLast (links + 1) directory (name :: rest) =
      t.walk followLast links (origin directory target) (steps target ++ rest) := by
  rw [walk]
  simp [hname.1, hname.2.1, hname.2.2, h, hrest]

end

/-- A way to a place with nothing but a socket stays the way there, if only that place changes and
nothing but a socket comes there. At its end there is no link that could be followed. -/
theorem walk_of_bindable (hsame : ∀ other, other ≠ location → t'.file? other = t.file? other)
    (hold : t.Bindable location) (hnew : t'.Bindable location) {followLast : Bool} {links : Nat}
    {directory : Location} {names : List String}
    (h : t.walk false links directory names = .ok location) :
    t'.walk followLast links directory names = .ok location := by
  fun_induction t.walk false links directory names with
  | case1 => simpa [walk] using h
  | case2 _ _ _ ih => simpa [walk] using ih h
  | case3 _ _ _ _ ih => simpa [walk] using ih h
  | case4 | case6 | case9 | case12 => cases h
  | case5 links directory name rest h₁ h₂ h₃ here _ hrest
  | case11 links directory name rest h₁ h₂ h₃ here _ _ _ _ hrest =>
    obtain rfl := List.isEmpty_iff.mp hrest
    obtain rfl := Except.ok.inj h
    exact walk_end ⟨h₁, h₂, h₃⟩ hnew
  | case7 links directory name rest h₁ h₂ h₃ here mode number hfile ih =>
    have hne := hold.ne hfile (by simp)
    rw [walk_into ⟨h₁, h₂, h₃⟩ ((hsame here hne).trans hfile)]
    exact ih h
  | case8 links directory name rest h₁ h₂ h₃ here target mode number hfile =>
    exact absurd (Except.ok.inj h) (hold.ne hfile (by simp))
  | case10 directory name rest h₁ h₂ h₃ here target mode number hfile hrest links ih =>
    have hne := hold.ne hfile (by simp)
    rw [walk_along ⟨h₁, h₂, h₃⟩ ((hsame here hne).trans hfile)
      (by simpa using hrest)]
    exact ih h

theorem locate_of_bindable (hsame : ∀ other, other ≠ location → t'.file? other = t.file? other)
    (hold : t.Bindable location) (hnew : t'.Bindable location) {followLast : Bool}
    (h : t.locate false path = .ok location) : t'.locate followLast path = .ok location := by
  unfold locate follow at h ⊢
  split at h
  · cases h
  · split at h
    · cases h
    · rw [if_neg ‹_›, if_neg ‹_›]
      exact walk_of_bindable hsame hold hnew h

theorem steps_eq_names (h : ¬asksForDirectory path) : steps path = names path := by
  simp [steps, h]

theorem locateEntry_eq (h : ¬asksForDirectory path) : t.locateEntry path = t.locate false path := by
  rw [locateEntry, locate, steps_eq_names h]

theorem status_eq_ok_iff {followLast : Bool} {file : File} :
    t.status followLast path = .ok file ↔
      ∃ location, t.locate followLast path = .ok location ∧ t.file? location = some file := by
  unfold status
  rw [bind_eq_ok_iff]
  refine exists_congr fun location => and_congr_right fun _ => ?_
  cases t.file? location <;> simp

/-- A path that can be followed at all has no zero byte and is not empty. -/
theorem follow_eq_ok {followLast : Bool} {names : List String}
    (h : t.follow followLast path names = .ok location) :
    path.toList.contains '\x00' = false ∧ path ≠ "" := by
  unfold follow at h
  split at h
  · cases h
  · split at h
    · cases h
    · exact ⟨Bool.eq_false_iff.mpr ‹_›, ‹_›⟩

theorem create_eq_ok_iff {kind : FileKind} {mode : Nat} (hkind : kind ≠ .directory) :
    t.create path kind mode = .ok t' ↔
      ¬asksForDirectory path ∧ ∃ location, t.locate false path = .ok location ∧
        t.file? location = none ∧ t' = t.add location kind mode := by
  unfold create
  rw [bind_eq_ok_iff]
  by_cases hdir : asksForDirectory path = true
  · refine iff_of_false ?_ fun h => h.1 hdir
    rintro ⟨location, -, h⟩
    split at h
    · cases h
    · rw [if_pos ⟨hdir, hkind⟩] at h
      cases h
  · rw [locateEntry_eq hdir, and_iff_right hdir]
    refine exists_congr fun location => and_congr_right fun _ => ?_
    cases t.file? location with
    | none => simp [hdir, eq_comm]
    | some file => simp

theorem checkAddress_eq_ok_iff :
    checkAddress path = .ok () ↔
      path.toList.contains '\x00' = false ∧ path.utf8ByteSize < addressSize := by
  unfold checkAddress
  split
  · simp_all
  · split
    all_goals simp_all

theorem createSocket_eq_ok_iff (hpath : path ≠ "") :
    t.createSocket path = .ok t' ↔
      path.utf8ByteSize < addressSize ∧ ¬asksForDirectory path ∧ ∃ location,
        t.locate false path = .ok location ∧ t.file? location = none ∧
          t' = t.add location .socket 0o755 := by
  have hcreate : t.createSocket path = .ok t' ↔
      checkAddress path = .ok () ∧ t.create path .socket 0o755 = .ok t' := by
    unfold createSocket
    rw [bind_eq_ok_iff]
    simp only [if_neg hpath]
    constructor
    · rintro ⟨⟨⟩, haddress, h⟩
      refine ⟨haddress, ?_⟩
      split at h
      · cases h
      · exact h
    · rintro ⟨haddress, h⟩
      exact ⟨(), haddress, by rw [h]⟩
  rw [hcreate, checkAddress_eq_ok_iff, create_eq_ok_iff (by simp)]
  constructor
  · rintro ⟨⟨-, hsize⟩, h⟩
    exact ⟨hsize, h⟩
  · rintro ⟨hsize, hdir, location, hloc, h⟩
    exact ⟨⟨(follow_eq_ok hloc).1, hsize⟩, hdir, location, hloc, h⟩

theorem file?_add (t : FileTree) (location : Location) (kind : FileKind) (mode : Nat)
    (other : Location) :
    (t.add location kind mode).file? other =
      if other = location then some ⟨kind, mode, t.nextNumber⟩ else t.file? other := rfl

theorem bindable_add (t : FileTree) (location : Location) (mode : Nat) :
    (t.add location .socket mode).Bindable location :=
  .of_some (if_pos rfl) rfl

theorem setMode_of_locate {file : File} (h : t.locate true path = .ok location)
    (hfile : t.file? location = some file) (mode : Nat) :
    t.setMode path mode = .ok (t.put location (some { file with mode })) := by
  simp [setMode, h, hfile, bind, Except.bind]

theorem put_put (t : FileTree) (location : Location) (file file' : Option File) :
    (t.put location file).put location file' = t.put location file' := by
  simp only [put, FileTree.mk.injEq, and_true]
  funext other
  split <;> rfl

theorem put_eq_self {file : Option File} (h : t.file? location = file) :
    t.put location file = t := by
  obtain ⟨file?, nextNumber⟩ := t
  simp only [put, FileTree.mk.injEq, and_true]
  funext other
  split
  · subst_vars
    rfl
  · rfl

theorem add_put (t : FileTree) (location : Location) (file : Option File) (kind : FileKind)
    (mode : Nat) :
    (t.put location file).add location kind mode = t.add location kind mode :=
  congrArg (fun u : FileTree => { u with nextNumber := t.nextNumber + 1 }) (put_put ..)

theorem put_add (t : FileTree) (location : Location) (kind : FileKind) (mode mode' : Nat) :
    (t.add location kind mode).put location (some ⟨kind, mode', t.nextNumber⟩) =
      t.add location kind mode' :=
  congrArg (fun u : FileTree => { u with nextNumber := t.nextNumber + 1 }) (put_put ..)

theorem remove_of_locate {file : File} (h : t.locate false path = .ok location)
    (hfile : t.file? location = some file) (hkind : file.kind = .socket) :
    t.remove path = .ok (t.put location none) := by
  simp [remove, h, hfile, hkind, bind, Except.bind]

end FileTree

end AltBit
