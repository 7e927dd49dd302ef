import AltBit.Proofs.Binding
import Mathlib.Logic.Function.Basic

/-!
Whose a socket file is. Listeners come and go on one tree of files, which others change as they
like, and a number is given again once nobody holds it. Still a listener that goes away removes the
socket that was made for it, if that is what its path leads to, and nothing else.
-/
namespace AltBit.Listener
open FileTree

/-- A tree of files, the listeners on it, and who has made what. -/
structure World where
  files : FileTree
  /-- How many listeners have been made. -/
  made : Nat
  /-- The listeners that are there, each by how many were made before it. -/
  live : Nat → Option Listener
  /-- The listener for which the file at a location was made. -/
  maker : Location → Option Nat

namespace World

/-- Files that no listener has made. -/
def start (files : FileTree) : World := ⟨files, 0, fun _ => none, fun _ => none⟩

/-- The file at the location is the socket that was made for the listener. -/
def Owns (w : World) (n : Nat) (location : Location) : Prop :=
  (w.files.file? location).isSome ∧ w.maker location = some n

/-- The files once what is left over at a path has been removed. -/
def cleared (w : World) (path : String) : FileTree :=
  (removeStale w.files path).val.toOption.getD w.files

/-- A listener that is made owns the file at its path. -/
def bind (w : World) (path : String) : World :=
  match (Listener.bind w.files path).val with
  | (.error _, files) => { w with files }
  | (.ok l, files) =>
    { files
      made := w.made + 1
      live := Function.update w.live w.made (some l)
      maker := match files.locate false path with
        | .ok location => Function.update w.maker location (some w.made)
        | .error _ => w.maker }

def drop (w : World) (n : Nat) (l : Listener) : World :=
  { w with files := (l.drop w.files).val, live := Function.update w.live n none }

/-- Neither one of the files nor a listener holds the number. -/
def Fresh (w : World) (files : FileTree) (number : Nat) : Prop :=
  (∀ location file, files.file? location = some file → file.number ≠ number) ∧
    ∀ n l, w.live n = some l → l.number ≠ number

/-- What others can make of the files: each was there, at this place or another, or it is new. -/
def Outside (w : World) (files : FileTree) (maker : Location → Option Nat) : Prop :=
  ∀ location file, files.file? location = some file →
    (∃ source old, w.files.file? source = some old ∧ file.kind = old.kind ∧
      file.number = old.number ∧ maker location = w.maker source) ∨
    (w.Fresh w.files file.number ∧ maker location = none)

/-- One call, taken as a whole, or one change from outside, which also settles the number of the next
file. -/
inductive Step (w : World) : World → Prop
  | bind (path : String) (hfresh : w.Fresh (w.cleared path) w.files.nextNumber) :
    Step w (w.bind path)
  | drop {n : Nat} {l : Listener} (hlive : w.live n = some l) : Step w (w.drop n l)
  | outside {files : FileTree} {maker : Location → Option Nat} (h : w.Outside files maker) :
    Step w { w with files, maker }

inductive Reachable : World → Prop
  | start (files : FileTree) : Reachable (start files)
  | step {w w' : World} (h : Reachable w) (hstep : w.Step w') : Reachable w'

variable {w w' : World} {path : String} {n : Nat} {l : Listener} {location : Location}

theorem cleared_of_locate (hloc : w.files.locate false path = .ok location)
    (hb : w.files.Bindable location) : w.cleared path = w.files.put location none := by
  rw [cleared, val_removeStale_of_locate hloc hb]
  rfl

/-- The world with a new socket at a location, owned by a new listener. -/
def listening (w : World) (path : String) (location : Location) : World where
  files := w.files.add location .socket socketMode
  made := w.made + 1
  live := Function.update w.live w.made (some ⟨path, w.files.nextNumber⟩)
  maker := Function.update w.maker location (some w.made)

theorem bind_of_val_bind (hloc : w.files.locate false path = .ok location)
    (hb : w.files.Bindable location)
    (h : (Listener.bind w.files path).val =
      (.ok ⟨path, w.files.nextNumber⟩, w.files.add location .socket socketMode)) :
    w.bind path = w.listening path location := by
  have hfound : (w.files.add location .socket socketMode).locate false path = .ok location :=
    locate_of_bindable (fun other hother => by simp [file?_add, hother]) hb
      (bindable_add _ _ _) hloc
  simp only [bind, h, hfound, listening]

theorem bind_cases (w : World) (path : String) :
    w.bind path = w ∨ ∃ location, w.files.locate false path = .ok location ∧
      w.files.Bindable location ∧ (w.bind path = { w with files := w.files.put location none } ∨
        w.bind path = w.listening path location) := by
  obtain ⟨e, h⟩ | ⟨location, hloc, hb, ⟨e, h⟩ | h⟩ := Listener.bind_cases w.files path
  · exact .inl (by simp only [bind, h])
  · exact .inr ⟨location, hloc, hb, .inl (by simp only [bind, h])⟩
  · exact .inr ⟨location, hloc, hb, .inr (bind_of_val_bind hloc hb h)⟩

/-- A file's maker and its number say the same about the listeners that are there. -/
structure Sound (w : World) : Prop where
  number : ∀ {n l location file}, w.live n = some l → w.files.file? location = some file →
    (w.maker location = some n ↔ file.number = l.number)
  kind : ∀ {n location file}, w.files.file? location = some file → w.maker location = some n →
    file.kind = .socket
  made : ∀ {n location file}, w.files.file? location = some file → w.maker location = some n →
    n < w.made

theorem sound_start (files : FileTree) : (start files).Sound where
  number hlive _ := nomatch hlive
  kind _ hmaker := nomatch hmaker
  made _ hmaker := nomatch hmaker

/-- Removing files and listeners leaves the rest as it was. -/
theorem Sound.mono (h : w.Sound)
    (hfiles : ∀ location file, w'.files.file? location = some file →
      w.files.file? location = some file)
    (hlive : ∀ n l, w'.live n = some l → w.live n = some l) (hmade : w'.made = w.made)
    (hmaker : w'.maker = w.maker) : w'.Sound where
  number hl hfile := hmaker ▸ h.number (hlive _ _ hl) (hfiles _ _ hfile)
  kind hfile hm := h.kind (hfiles _ _ hfile) (hmaker ▸ hm)
  made hfile hm := hmade ▸ h.made (hfiles _ _ hfile) (hmaker ▸ hm)

theorem listening_file_cases {place : Location} {file : File}
    (h : (w.listening path location).files.file? place = some file) :
    (file = ⟨.socket, socketMode, w.files.nextNumber⟩ ∧
        (w.listening path location).maker place = some w.made) ∨
      (w.files.file? place = some file ∧ (w.files.put location none).file? place = some file ∧
        (w.listening path location).maker place = w.maker place) := by
  simp only [World.listening, file?_add] at h ⊢
  by_cases hplace : place = location
  · rw [if_pos hplace] at h
    exact .inl ⟨(Option.some.inj h).symm, hplace ▸ Function.update_self ..⟩
  · rw [if_neg hplace] at h
    exact .inr ⟨h, by rwa [file?_put, if_neg hplace], Function.update_of_ne hplace ..⟩

theorem listening_live_cases (h : (w.listening path location).live n = some l) :
    (n = w.made ∧ l = ⟨path, w.files.nextNumber⟩) ∨ (n ≠ w.made ∧ w.live n = some l) := by
  by_cases hn : n = w.made
  · subst hn
    exact .inl ⟨rfl, by simpa [World.listening, eq_comm] using h⟩
  · exact .inr ⟨hn, by simpa [World.listening, hn] using h⟩

/-- Nobody else has the new number, and nobody else has made the new file. -/
theorem Sound.listening (h : w.Sound)
    (hfresh : w.Fresh (w.files.put location none) w.files.nextNumber) :
    (w.listening path location).Sound where
  number {n l place file} hlive hfile := by
    obtain ⟨rfl, hm⟩ | ⟨hfile, hrest, hm⟩ := listening_file_cases hfile
    all_goals obtain ⟨rfl, rfl⟩ | ⟨hn, hlive⟩ := listening_live_cases hlive
    all_goals rw [hm]
    · simp
    · have hother := (hfresh.2 n l hlive).symm
      simp [hn.symm, hother]
    · have hmade : w.maker place ≠ some w.made := fun hm => Nat.lt_irrefl _ (h.made hfile hm)
      have hother := hfresh.1 place file hrest
      simp [hmade, hother]
    · exact h.number hlive hfile
  kind {n place file} hfile hn := by
    obtain ⟨rfl, -⟩ | ⟨hfile, -, hm⟩ := listening_file_cases hfile
    · rfl
    · exact h.kind hfile (hm.symm.trans hn)
  made {n place file} hfile hn := by
    obtain ⟨-, hm⟩ | ⟨hfile, -, hm⟩ := listening_file_cases hfile
    · obtain rfl := Option.some.inj (hm.symm.trans hn)
      exact Nat.lt_succ_self _
    · exact Nat.lt_succ_of_lt (h.made hfile (hm.symm.trans hn))

/-- A file that was there keeps what is known of it, and a new one has no listener's number. -/
theorem Sound.outside (h : w.Sound) {files : FileTree} {maker : Location → Option Nat}
    (hout : w.Outside files maker) : { w with files, maker : World }.Sound where
  number {n l location file} hlive hfile := by
    obtain ⟨source, old, hold, -, hnumber, hmaker⟩ | ⟨hfresh, hmaker⟩ := hout location file hfile
    · simpa [hmaker, hnumber] using h.number hlive hold
    · have hother := (hfresh.2 n l hlive).symm
      simp [hmaker, hother]
  kind {n location file} hfile hm := by
    obtain ⟨source, old, hold, hkind, -, hmaker⟩ | ⟨-, hmaker⟩ := hout location file hfile
    · exact hkind.trans (h.kind hold (hmaker.symm.trans hm))
    · cases hmaker.symm.trans hm
  made {n location file} hfile hm := by
    obtain ⟨source, old, hold, -, -, hmaker⟩ | ⟨-, hmaker⟩ := hout location file hfile
    · exact h.made hold (hmaker.symm.trans hm)
    · cases hmaker.symm.trans hm

theorem file?_of_file?_drop {file : File} (h : (l.drop w.files).val.file? location = some file) :
    w.files.file? location = some file := by
  by_cases hholds : l.Holds w.files location
  · rw [file?_drop_of_holds hholds] at h
    cases h
  · rwa [file?_drop_of_not_holds hholds] at h

theorem Sound.step (h : w.Sound) (hstep : w.Step w') : w'.Sound := by
  cases hstep with
  | bind path hfresh =>
    obtain heq | ⟨location, hloc, hb, heq | heq⟩ := w.bind_cases path
    all_goals rw [heq]
    · exact h
    · refine h.mono (fun place file hfile => ?_) (fun _ _ hlive => hlive) rfl rfl
      simp only [file?_put] at hfile
      split at hfile
      · cases hfile
      · exact hfile
    · rw [cleared_of_locate hloc hb] at hfresh
      exact h.listening hfresh
  | @drop n l hlive =>
    refine h.mono (fun place file hfile => file?_of_file?_drop hfile) (fun k l' hl => ?_) rfl rfl
    have hk : k ≠ n := by
      rintro rfl
      simp [drop] at hl
    simpa [drop, hk] using hl
  | outside hout => exact h.outside hout

theorem Reachable.sound (h : w.Reachable) : w.Sound := by
  induction h with
  | start files => exact sound_start files
  | step _ hstep ih => exact ih.step hstep

/-- What a listener holds by path and number is what was made for it. -/
theorem Sound.holds_iff (h : w.Sound) (hlive : w.live n = some l) :
    l.Holds w.files location ↔
      w.files.locate false l.path = .ok location ∧ w.Owns n location := by
  constructor
  · rintro ⟨hloc, file, hfile, -, hnumber⟩
    exact ⟨hloc, by simp [hfile], (h.number hlive hfile).mpr hnumber⟩
  · rintro ⟨hloc, hsome, hmaker⟩
    obtain ⟨file, hfile⟩ := Option.isSome_iff_exists.mp hsome
    exact ⟨hloc, file, hfile, h.kind hfile hmaker, (h.number hlive hfile).mp hmaker⟩

/-- Once bound, the path leads to the listener's own socket. -/
theorem owns_bind (h : (Listener.bind w.files path).val.1 = .ok l) :
    l.path = path ∧ (w.bind path).live w.made = some l ∧
      ∃ location, w.files.locate false path = .ok location ∧ (w.bind path).Owns w.made location ∧
        (Listener.bind w.files path).val.2.file? location =
          some ⟨.socket, socketMode, l.number⟩ := by
  obtain ⟨e, hval⟩ | ⟨location, hloc, hb, ⟨e, hval⟩ | hval⟩ := Listener.bind_cases w.files path
  · simp [hval] at h
  · simp [hval] at h
  · rw [bind_of_val_bind hloc hb hval]
    rw [hval] at h ⊢
    obtain rfl := Except.ok.inj h
    exact ⟨rfl, Function.update_self .., location, hloc,
      ⟨by simp [listening, file?_add], Function.update_self ..⟩, if_pos rfl⟩

theorem Sound.owns_drop (h : w.Sound) (hlive : w.live n = some l) {k : Nat} (hk : k ≠ n)
    (hown : w.Owns k location) : (w.drop n l).Owns k location := by
  have hnot : ¬l.Holds w.files location := by
    rw [h.holds_iff hlive]
    rintro ⟨-, -, hmaker⟩
    exact hk (Option.some.inj (hown.2.symm.trans hmaker))
  exact ⟨by rw [drop, file?_drop_of_not_holds hnot]; exact hown.1, hown.2⟩

/-- Files and listeners have smaller numbers than the next file, as if none were given again. -/
structure Ordered (w : World) : Prop where
  files : ∀ {location file}, w.files.file? location = some file → file.number < w.files.nextNumber
  live : ∀ {n l}, w.live n = some l → l.number < w.files.nextNumber

theorem Ordered.fresh (h : w.Ordered) (location : Location) :
    w.Fresh (w.files.put location none) w.files.nextNumber := by
  refine ⟨fun place file hfile => ?_, fun n l hlive => Nat.ne_of_lt (h.live hlive)⟩
  rw [file?_put] at hfile
  split at hfile
  · cases hfile
  · exact Nat.ne_of_lt (h.files hfile)

theorem ordered_start : (start .initial).Ordered where
  files {location file} hfile := by
    simp only [start, initial] at hfile ⊢
    split at hfile
    · cases hfile
      decide
    · split at hfile <;> cases hfile
      decide
  live := nofun

theorem Ordered.listening (h : w.Ordered) (path : String) (location : Location) :
    (w.listening path location).Ordered where
  files {place file} hfile := by
    obtain ⟨rfl, -⟩ | ⟨hfile, -⟩ := listening_file_cases hfile
    · exact Nat.lt_succ_self _
    · exact Nat.lt_succ_of_lt (h.files hfile)
  live {n l} hlive := by
    obtain ⟨-, rfl⟩ | ⟨-, hlive⟩ := listening_live_cases hlive
    · exact Nat.lt_succ_self _
    · exact Nat.lt_succ_of_lt (h.live hlive)

/-- Where nothing but a socket stands, a short path that asks for no directory can be bound. -/
theorem Reachable.listening (h : w.Reachable) (hordered : w.Ordered)
    (hsize : path.utf8ByteSize < maxPathLength) (hdir : ¬asksForDirectory path)
    (hloc : w.files.locate false path = .ok location) (hb : w.files.Bindable location) :
    (w.listening path location).Reachable := by
  rw [← bind_of_val_bind hloc hb (val_bind_of_locate hsize hdir hloc hb)]
  exact h.step (.bind path (by rw [cleared_of_locate hloc hb]; exact hordered.fresh location))

/-- **Listeners own their sockets.** Whatever came before, binding a path that is too long, or where
anything but a socket stands, fails and changes nothing; no binding changes more than the file at
its path, where nothing or a socket was; and a listener that is bound has a socket of its own
there. Dropping a listener removes the file at its path if that is the listener's own, and no other:
what has been made for any other listener is still there, at the same path too. -/
theorem removes_only_own (h : w.Reachable) :
    (∀ path,
      (maxPathLength ≤ path.utf8ByteSize ∨
          (∃ file, w.files.status false path = .ok file ∧ file.kind ≠ .socket) →
        ∃ e, (Listener.bind w.files path).val = (.error e, w.files)) ∧
      (∀ location,
        (Listener.bind w.files path).val.2.file? location ≠ w.files.file? location →
          w.files.locate false path = .ok location ∧ w.files.Bindable location) ∧
      ∀ l, (Listener.bind w.files path).val.1 = .ok l →
        l.path = path ∧ (w.bind path).live w.made = some l ∧
          ∃ location, w.files.locate false path = .ok location ∧
            (w.bind path).Owns w.made location ∧
            (Listener.bind w.files path).val.2.file? location =
              some ⟨.socket, socketMode, l.number⟩) ∧
    ∀ n l, w.live n = some l →
      (∀ location,
        (w.files.locate false l.path = .ok location ∧ w.Owns n location →
          (l.drop w.files).val.file? location = none) ∧
        (¬(w.files.locate false l.path = .ok location ∧ w.Owns n location) →
          (l.drop w.files).val.file? location = w.files.file? location)) ∧
      ∀ k location, k ≠ n → w.Owns k location → (w.drop n l).Owns k location := by
  have hsound := h.sound
  refine ⟨fun path => ⟨bind_refused, fun location => locate_of_bind_ne, fun l => owns_bind⟩,
    fun n l hlive => ⟨fun location => ⟨?_, ?_⟩, fun k location hk => hsound.owns_drop hlive hk⟩⟩
  · rw [← hsound.holds_iff hlive]
    exact file?_drop_of_holds
  · rw [← hsound.holds_iff hlive]
    exact file?_drop_of_not_holds

theorem asksForDirectory_sample : ¬asksForDirectory "s" := by
  decide +kernel

/-- An entry of the working directory is found by its name alone. -/
theorem locate_sample {t : FileTree} (h : t.Bindable ["work", "s"]) :
    t.locate false "s" = .ok ["work", "s"] := by
  have hsplit : "s".splitOn "/" = ["s"] := by
    unfold String.splitOn
    rw [if_neg (by decide), String.splitOnAux, if_neg (by decide +kernel),
      if_neg (by decide +kernel), String.splitOnAux, if_pos (by decide +kernel)]
    decide +kernel
  have hnames : names "s" = ["s"] := by
    unfold names
    rw [hsplit]
    decide +kernel
  have horigin : origin workingDirectory "s" = ["work"] := by decide +kernel
  have hend : t.Bindable (["work"] ++ ["s"]) := h
  unfold locate follow
  rw [steps_eq_names asksForDirectory_sample, hnames, horigin, if_neg (by decide +kernel),
    if_neg (by decide)]
  exact walk_end ⟨by decide, by decide, by decide⟩ hend

/-- Two listeners on one path: dropping the older leaves the newer's socket, dropping the newer
removes it. -/
theorem removes_only_own_rebound :
    let location := ["work", "s"]
    ∃ w : World, w.Reachable ∧ w.live 0 = some ⟨"s", 2⟩ ∧ w.live 1 = some ⟨"s", 3⟩ ∧
      w.files.locate false "s" = .ok location ∧ w.Owns 1 location ∧
      (w.drop 0 ⟨"s", 2⟩).Owns 1 location ∧
      ((⟨"s", 3⟩ : Listener).drop w.files).val.file? location = none := by
  intro location
  let first := (start .initial).listening "s" location
  let second := first.listening "s" location
  have hsize : "s".utf8ByteSize < maxPathLength := by decide
  have hempty : (start .initial).files.Bindable location := .of_none rfl
  have htaken : first.files.Bindable location := bindable_add _ _ _
  have hfirst : first.Reachable :=
    (Reachable.start .initial).listening ordered_start hsize asksForDirectory_sample
      (locate_sample hempty) hempty
  have hsecond : second.Reachable :=
    hfirst.listening (ordered_start.listening ..) hsize asksForDirectory_sample
      (locate_sample htaken) htaken
  have hlive₀ : second.live 0 = some ⟨"s", 2⟩ := rfl
  have hlive₁ : second.live 1 = some ⟨"s", 3⟩ := rfl
  have hloc : second.files.locate false "s" = .ok location := locate_sample (bindable_add _ _ _)
  have howns : second.Owns 1 location := ⟨rfl, rfl⟩
  refine ⟨second, hsecond, hlive₀, hlive₁, hloc, howns, ?_, ?_⟩
  · exact ((removes_only_own hsecond).2 0 _ hlive₀).2 1 location (by decide) howns
  · exact (((removes_only_own hsecond).2 1 _ hlive₁).1 location).1 ⟨hloc, howns⟩

end World
end AltBit.Listener
