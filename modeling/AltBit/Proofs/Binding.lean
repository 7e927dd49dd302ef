import AltBit.Proofs.Paths

/-!
What binding a path, and dropping the listener made for it, can do to a tree of files.
-/
namespace AltBit.Listener
open FileTree

variable {t t' : FileTree} {location : Location} {path : String} {l : Listener}

/-- Where nothing stood, the new socket is found again by its path, and gets its mode and is read
back there. -/
theorem place_of_createSocket (hloc : t.locate false path = .ok location)
    (hnone : t.file? location = none)
    (hsocket : t.createSocket path = .ok (t.add location .socket 0o755)) :
    place t path = .ok (⟨path, t.nextNumber⟩, t.add location .socket socketMode) := by
  have hfound {followLast : Bool} {mode : Nat} :
      (t.add location .socket mode).locate followLast path = .ok location :=
    locate_of_bindable (fun other hother => by simp [file?_add, hother]) (.of_none hnone)
      (bindable_add t location mode) hloc
  have hmode : (t.add location .socket 0o755).setMode path socketMode =
      .ok (t.add location .socket socketMode) := by
    rw [setMode_of_locate hfound (if_pos rfl), put_add]
  have hstatus : (t.add location .socket socketMode).status false path =
      .ok ⟨.socket, socketMode, t.nextNumber⟩ :=
    status_eq_ok_iff.mpr ⟨location, hfound, if_pos rfl⟩
  exact bind_eq_ok_iff.mpr ⟨_, hsocket, bind_eq_ok_iff.mpr ⟨_, hmode, bind_eq_ok_iff.mpr
    ⟨_, hstatus, rfl⟩⟩⟩

/-- A listener is placed where a short path that asks for no directory leads, if nothing is there,
and the socket there is the listener's from then on. -/
theorem place_eq_ok_iff :
    place t path = .ok (l, t') ↔
      path.utf8ByteSize < addressSize ∧ ¬asksForDirectory path ∧ ∃ location,
        t.locate false path = .ok location ∧ t.file? location = none ∧
          l = ⟨path, t.nextNumber⟩ ∧ t' = t.add location .socket socketMode := by
  constructor
  · intro h
    have hpath : path ≠ "" := by
      rintro rfl
      cases h
    obtain ⟨created, hsocket, -⟩ := bind_eq_ok_iff.mp h
    obtain ⟨hsize, hdir, location, hloc, hnone, rfl⟩ := (createSocket_eq_ok_iff hpath).mp hsocket
    rw [place_of_createSocket hloc hnone hsocket] at h
    cases h
    exact ⟨hsize, hdir, location, hloc, hnone, rfl, rfl⟩
  · rintro ⟨hsize, hdir, location, hloc, hnone, rfl, rfl⟩
    have hsocket := (createSocket_eq_ok_iff (follow_eq_ok hloc).2).mpr
      ⟨hsize, hdir, location, hloc, hnone, rfl⟩
    exact place_of_createSocket hloc hnone hsocket

theorem val_removeStale_of_locate (hloc : t.locate false path = .ok location)
    (hb : t.Bindable location) : (removeStale t path).val = .ok (t.put location none) := by
  rcases hfile : t.file? location with _ | file
  · have hstatus : t.status false path = .error (.system 2) := by
      simp [status, hloc, hfile, Bind.bind, Except.bind]
    rw [put_eq_self hfile]
    simp only [removeStale, hstatus]
    rfl
  · have hstatus : t.status false path = .ok file := status_eq_ok_iff.mpr ⟨location, hloc, hfile⟩
    have hkind := hb file hfile
    simp only [removeStale, hstatus, if_pos hkind, remove_of_locate hloc hfile hkind]
    rfl

theorem val_removeStale_of_status {file : File} (h : t.status false path = .ok file)
    (hkind : file.kind ≠ .socket) :
    (removeStale t path).val =
      .error (.worded .alreadyExists "existing path is not a unix socket") := by
  simp only [removeStale, h, if_neg hkind]
  rfl

/-- A path that is cleared leads nowhere, or to a place with nothing but a socket. -/
theorem removeStale_cases (h : (removeStale t path).val = .ok t') :
    (∃ e, t.locate false path = .error e) ∧ t' = t ∨
      ∃ location, t.locate false path = .ok location ∧ t.Bindable location ∧
        t' = t.put location none := by
  rcases hloc : t.locate false path with e | location
  · have hstatus : t.status false path = .error e := by simp [status, hloc, Bind.bind, Except.bind]
    simp only [removeStale, hstatus] at h
    by_cases hkind : e.kind = .notFound
    · rw [if_pos hkind] at h
      exact .inl ⟨⟨e, rfl⟩, (Except.ok.inj h).symm⟩
    · rw [if_neg hkind] at h
      cases h
  · by_cases hb : t.Bindable location
    · rw [val_removeStale_of_locate hloc hb] at h
      exact .inr ⟨location, rfl, hb, (Except.ok.inj h).symm⟩
    · obtain ⟨file, hfile, hkind⟩ : ∃ file ∈ t.file? location, file.kind ≠ .socket := by
        simpa [Bindable] using hb
      rw [val_removeStale_of_status (status_eq_ok_iff.mpr ⟨location, hloc, hfile⟩) hkind] at h
      cases h

theorem val_bind_of_removeStale {cleared : FileTree} (hsize : path.utf8ByteSize < maxPathLength)
    (hclear : (removeStale t path).val = .ok cleared) :
    (bind t path).val =
      match place cleared path with
      | .error e => (.error (.bind path e), cleared)
      | .ok (l, files) => (.ok l, files) := by
  simp only [bind, if_neg (Nat.not_le.mpr hsize), Traced.val_bind, hclear]
  rcases place cleared path with e | ⟨l, files⟩ <;> rfl

theorem locate_cleared (hloc : t.locate false path = .ok location) (hb : t.Bindable location) :
    (t.put location none).locate false path = .ok location :=
  locate_of_bindable (fun other hother => by simp [file?_put, hother]) hb
    (.of_none (by simp [file?_put])) hloc

/-- A short path that asks for no directory is bound where nothing or a socket stands. -/
theorem val_bind_of_locate (hsize : path.utf8ByteSize < maxPathLength)
    (hdir : ¬asksForDirectory path) (hloc : t.locate false path = .ok location)
    (hb : t.Bindable location) :
    (bind t path).val = (.ok ⟨path, t.nextNumber⟩, t.add location .socket socketMode) := by
  have hplace : place (t.put location none) path =
      .ok (⟨path, t.nextNumber⟩, t.add location .socket socketMode) :=
    place_eq_ok_iff.mpr ⟨hsize, hdir, location, locate_cleared hloc hb, by simp [file?_put], rfl,
      (add_put ..).symm⟩
  rw [val_bind_of_removeStale hsize (val_removeStale_of_locate hloc hb), hplace]

/-- Everything that binding can come to. Only where nothing or a socket stood does it change a file:
the listener's socket is there, or the way is cleared and placing fails. -/
theorem bind_cases (t : FileTree) (path : String) :
    (∃ e, (bind t path).val = (.error e, t)) ∨
      ∃ location, t.locate false path = .ok location ∧ t.Bindable location ∧
        ((∃ e, (bind t path).val = (.error e, t.put location none)) ∨
          (bind t path).val =
            (.ok ⟨path, t.nextNumber⟩, t.add location .socket socketMode)) := by
  by_cases hsize : maxPathLength ≤ path.utf8ByteSize
  · exact .inl ⟨_, by rw [bind, if_pos hsize]; rfl⟩
  rw [Nat.not_le] at hsize
  rcases hclear : (removeStale t path).val with e | cleared
  · exact .inl ⟨.bind path e, by
      simp only [bind, if_neg (Nat.not_le.mpr hsize), Traced.val_bind, hclear]; rfl⟩
  rw [val_bind_of_removeStale hsize hclear]
  rcases hplace : place cleared path with e | ⟨l, t'⟩
  · obtain ⟨-, rfl⟩ | ⟨location, hloc, hb, rfl⟩ := removeStale_cases hclear
    · exact .inl ⟨_, rfl⟩
    · exact .inr ⟨location, hloc, hb, .inl ⟨_, rfl⟩⟩
  · obtain ⟨-, hdir, location, hloc', -, rfl, rfl⟩ := place_eq_ok_iff.mp hplace
    obtain ⟨⟨e, he⟩, rfl⟩ | ⟨cleared, hloc, hb, rfl⟩ := removeStale_cases hclear
    · simp [he] at hloc'
    · obtain rfl := Except.ok.inj ((locate_cleared hloc hb).symm.trans hloc')
      exact .inr ⟨cleared, hloc, hb, .inr (by rw [add_put]; rfl)⟩

/-- A path that is too long, or where something else stands, is refused and all is left as it was. -/
theorem bind_refused (h : maxPathLength ≤ path.utf8ByteSize ∨
    ∃ file, t.status false path = .ok file ∧ file.kind ≠ .socket) :
    ∃ e, (bind t path).val = (.error e, t) := by
  obtain hsize | ⟨file, hstatus, hkind⟩ := h
  · exact ⟨_, by rw [bind, if_pos hsize]; rfl⟩
  · obtain ⟨location, hloc, hfile⟩ := status_eq_ok_iff.mp hstatus
    obtain h | ⟨other, hloc', hb, -⟩ := bind_cases t path
    · exact h
    · obtain rfl := Except.ok.inj (hloc.symm.trans hloc')
      exact absurd (hb file hfile) hkind

/-- Whatever becomes of it, binding changes the file at its path at most, and only a socket. -/
theorem locate_of_bind_ne (h : (bind t path).val.2.file? location ≠ t.file? location) :
    t.locate false path = .ok location ∧ t.Bindable location := by
  obtain ⟨e, hval⟩ | ⟨place, hloc, hb, hval⟩ := bind_cases t path
  · rw [hval] at h
    exact absurd rfl h
  · by_cases hplace : location = place
    · subst hplace
      exact ⟨hloc, hb⟩
    · obtain ⟨e, hval⟩ | hval := hval
      all_goals simp [hval, file?_put, file?_add, hplace] at h

/-- The listener's path leads to the location, and a socket of its number is there. -/
def Holds (l : Listener) (t : FileTree) (location : Location) : Prop :=
  t.locate false l.path = .ok location ∧
    ∃ file, t.file? location = some file ∧ file.kind = .socket ∧ file.number = l.number

theorem val_drop_of_holds (h : l.Holds t location) : (l.drop t).val = t.put location none := by
  obtain ⟨hloc, file, hfile, hown⟩ := h
  have hstatus : t.status false l.path = .ok file := status_eq_ok_iff.mpr ⟨location, hloc, hfile⟩
  simp only [drop, hstatus, if_pos hown, remove_of_locate hloc hfile hown.1]
  rfl

theorem val_drop_of_not_holds (h : ∀ location, ¬l.Holds t location) : (l.drop t).val = t := by
  rcases hstatus : t.status false l.path with e | file
  · simp only [drop, hstatus]
    rfl
  · obtain ⟨location, hloc, hfile⟩ := status_eq_ok_iff.mp hstatus
    have hown : ¬(file.kind = .socket ∧ file.number = l.number) :=
      fun hown => h location ⟨hloc, file, hfile, hown⟩
    simp only [drop, hstatus, if_neg hown]
    rfl

theorem file?_drop_of_holds (h : l.Holds t location) : (l.drop t).val.file? location = none := by
  rw [val_drop_of_holds h, file?_put, if_pos rfl]

theorem file?_drop_of_not_holds (h : ¬l.Holds t location) :
    (l.drop t).val.file? location = t.file? location := by
  by_cases hany : ∃ other, l.Holds t other
  · obtain ⟨other, hother⟩ := hany
    rw [val_drop_of_holds hother, file?_put, if_neg]
    rintro rfl
    exact h hother
  · rw [val_drop_of_not_holds (not_exists.mp hany)]

end AltBit.Listener
