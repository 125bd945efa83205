import ProfileSession.Proofs.Storage.Interrupted
import ProfileSession.Proofs.Storage.Limit
import ProfileSession.Proofs.Storage.Refinement

namespace ProfileSession.FileStorage

open Storage (Call Answer)

-- A change that succeeds puts the changed items into the storage file. It changes no other file,
-- and the one that was written first is gone, unless it is the storage file itself.
structure Replaces (s : FileStorage) (c : Call) (d d' : Directory) : Prop where
  held : ∃ items, s.load d = .ok items ∧
    d'.contents s.path.names = .ok (Toml.render (c.change items)).toUTF8
  others (place : List String) : d.locate s.path.names ≠ .ok place →
    d.locate s.scratchNames ≠ .ok place → d'.node? place = d.node? place
  scratch (place : List String) : d.locate s.scratchNames = .ok place →
    d.locate s.path.names ≠ .ok place → d'.node? place = none

-- The files after a call that was answered in some way.
def Leaves (s : FileStorage) (c : Call) (d d' : Directory) : Answer → Prop
  | .value _ => d' = d
  | .written (.error _) => s.Fails d d'
  | .written (.ok _) => s.Replaces c d d'

-- A file that cannot be read: nothing is found in it, and for the same reason nothing is written.
structure Unreadable (s : FileStorage) (e : Error) (d : Directory) : Prop where
  get (key : String) : s.call d (.get key) = (.value none, d)
  set (key value : String) : s.call d (.set key value) = (.written (.error e), d)
  remove (key : String) : s.call d (.remove key) = (.written (.error e), d)

variable {s : FileStorage} {d d' : Directory}

theorem Saves.replaces {c : Call} {items : Items} (hload : s.load d = .ok items)
    (h : s.Saves (c.change items) d (.ok ()) d') : s.Replaces c d d' := by
  obtain ⟨-, hcontents, -⟩ := h.left
  cases h with
  | replaced hpath htaken hq ht hfile hgone hother =>
      refine ⟨⟨items, hload, hcontents⟩, fun place hplace hscratch => ?_,
        fun place hscratch hplace => ?_⟩
      · refine hother place ?_ ?_
        · rintro rfl
          exact hscratch hq.1
        · rintro rfl
          exact hplace ht.1
      · cases hq.1.symm.trans hscratch
        exact hgone fun heq => hplace (heq ▸ ht.1)

-- A change fails before its first step, or its steps are those of a save.
theorem leaves_of_update {c : Call} {r : Except Error Unit}
    (h : s.update c.change d = (r, d')) : s.Leaves c d d' (.written r) := by
  rcases update_cases h with ⟨e, -, rfl, rfl⟩ | ⟨items, hload, hsaves⟩
  · exact ⟨fun _ => rfl, fun _ _ => rfl, fun _ => rfl⟩
  · cases r with
    | error e => exact hsaves.fails
    | ok u => exact hsaves.replaces hload

theorem unreadable_of_load {e : Error} (h : s.load d = .error e) : s.Unreadable e d where
  get key := by simp only [call, getItem, h]
  set key value := by
    simp only [call, setItem, update, h]
    rfl
  remove key := by
    simp only [call, removeItem, update, h]
    rfl

-- Reading leaves the files as they are, and so does a change that fails; a change that succeeds is
-- one of the storage file. What keeps the file from being read keeps it from being written.
theorem calls_confined (s : FileStorage) (d : Directory) (c : Call) :
    s.Leaves c d (s.call d c).2 (s.call d c).1 ∧
      ∀ e, s.load d = .error e → s.Unreadable e d := by
  refine ⟨?_, fun e => unreadable_of_load⟩
  cases c with
  | get key => rfl
  | set key value => exact leaves_of_update (c := .set key value) rfl
  | remove key => exact leaves_of_update (c := .remove key) rfl

-- A folder stands where the file would be written first, so a value that is there stays.
theorem calls_confined_blocked :
    let s : FileStorage := ⟨⟨"session.toml"⟩⟩
    let d : Directory :=
      ⟨[(["session.toml"], .file "a = 'x'\n".toUTF8), (["session.tmp"], .folder)]⟩
    (s.call d (.set "a" "y")).2 = d ∧ s.getItem "a" d = some "x" := by
  intro s d
  have hleaves := (calls_confined s d (.set "a" "y")).1
  have hanswer : (s.call d (.set "a" "y")).1 = .written (.error (.ofSystem .isFolder)) :=
    congrArg Answer.written (by decide +kernel)
  rw [hanswer] at hleaves
  exact ⟨hleaves.same (by decide +kernel), by decide +kernel⟩

-- A path that ends in a slash can only be that of a folder. The file that was written first cannot
-- take this name, and is left behind.
theorem scratch_left_behind :
    ¬ ∀ (s : FileStorage) (d d' : Directory) (name key value : String) (e : Error),
      FilePath.fileName? s.path.names = some name → s.setItem key value d = (.error e, d') →
      ∀ place, d'.node? place = d.node? place := by
  intro hall
  let s : FileStorage := ⟨⟨"session.toml/"⟩⟩
  have hset : s.setItem "k" "v" {} = (.error (.ofSystem .notFolder), (s.setItem "k" "v" {}).2) :=
    Prod.ext (by decide +kernel) rfl
  have hname : FilePath.fileName? s.path.names = some "session.toml" := by decide +kernel
  have hsame := hall s {} _ _ _ _ _ hname hset ["session.tmp"]
  have hleft : (s.setItem "k" "v" {}).2.node? ["session.tmp"] =
      some (.file "k = \"v\"\n".toUTF8) := by decide +kernel
  rw [hleft] at hsame
  cases hsame

end ProfileSession.FileStorage
