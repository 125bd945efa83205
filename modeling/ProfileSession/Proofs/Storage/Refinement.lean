import Mathlib.Data.List.Infix
import ProfileSession.Proofs.Storage.Save
import ProfileSession.Storage.Basic

namespace ProfileSession

-- What is asked of a storage.
inductive Storage.Call where
  | get (key : String)
  | set (key value : String)
  | remove (key : String)

-- What a storage answers.
inductive Storage.Answer where
  | value (text : Option String)
  | written (result : Except Error Unit)

namespace Storage

def call (s : Storage) : Call → Answer × Storage
  | .get key => (.value (s.getItem key), s)
  | .set key value => ((s.setItem key value).map .written id)
  | .remove key => ((s.removeItem key).map .written id)

-- The answers to some calls, one after the other.
def callAll (s : Storage) : List Call → List Answer × Storage
  | [] => ([], s)
  | c :: cs => ((s.call c).2.callAll cs).map ((s.call c).1 :: ·) id

-- The items after a call, as a table in memory has them.
def Call.change : Call → Items → Items
  | get _ => id
  | set key value => Items.insert key value
  | remove key => Items.erase key

theorem call_ofMemory (items : Items) (c : Call) :
    ((ofMemory items).call c).2 = ofMemory (c.change items) := by
  cases c <;> rfl

-- In memory every change is made.
theorem written_ofMemory {items : Items} {calls : List Call} {result : Except Error Unit}
    (h : .written result ∈ ((ofMemory items).callAll calls).1) : result = .ok () := by
  induction calls generalizing items with
  | nil => cases h
  | cons c calls ih =>
      simp only [callAll, Prod.map, List.mem_cons] at h
      obtain hfirst | hrest := h
      · cases c <;> simp_all [call, ofMemory, setItem, removeItem, write]
      · rw [call_ofMemory] at hrest
        exact ih hrest

end Storage

namespace FileStorage

open Storage (Call Answer)

def call (s : FileStorage) (d : Directory) : Call → Answer × Directory
  | .get key => (.value (s.getItem key d), d)
  | .set key value => (s.setItem key value d).map .written id
  | .remove key => (s.removeItem key d).map .written id

-- The answers to calls of several storages over the same files, in the order in which they come.
def callAll (d : Directory) : List (FileStorage × Call) → List Answer × Directory
  | [] => ([], d)
  | c :: cs => (callAll (c.1.call d c.2).2 cs).map ((c.1.call d c.2).1 :: ·) id

-- Every text that the calls leave in the file is within the limit of size.
def SizesFit (s : FileStorage) (d : Directory) (calls : List (FileStorage × Call)) : Prop :=
  ∀ front, front <+: calls → ∀ bytes,
    (callAll d front).2.contents s.path.names = .ok bytes → bytes.size ≤ sizeLimit

theorem SizesFit.tail {s : FileStorage} {d : Directory} {c : FileStorage × Call}
    {calls : List (FileStorage × Call)} (h : s.SizesFit d (c :: calls)) :
    s.SizesFit (c.1.call d c.2).2 calls := fun front hfront bytes hbytes =>
  h (c :: front) (List.cons_prefix_cons.mpr ⟨rfl, hfront⟩) bytes hbytes

-- A change answers that it is done, and the file then holds the changed items, if it may hold
-- their text.
theorem update_eq {s : FileStorage} {d : Directory} {items : Items} (change : Items → Items)
    (h : s.Writable d) (hload : s.load d = .ok items) (hsorted : (change items).Sorted) :
    ∃ d', s.update change d = (.ok (), d') ∧ s.Writable d' ∧
      ((∀ bytes, d'.contents s.path.names = .ok bytes → bytes.size ≤ sizeLimit) →
        s.load d' = .ok (change items)) := by
  obtain ⟨d', hsave, hsaves⟩ := h.saves (change items)
  obtain ⟨hwritable, hcontents, hloads⟩ := hsaves.left
  exact ⟨d', by simp only [update, hload, hsave], hwritable, fun hsize =>
    hloads (hsize _ hcontents) hsorted⟩

-- One call in a file answers as in memory, and the two go on holding the same items.
theorem call_eq {s : FileStorage} {d : Directory} {items : Items} (c : Call)
    (h : s.Writable d) (hload : s.load d = .ok items) :
    (s.call d c).1 = ((Storage.ofMemory items).call c).1 ∧ s.Writable (s.call d c).2 ∧
      ((∀ bytes, (s.call d c).2.contents s.path.names = .ok bytes → bytes.size ≤ sizeLimit) →
        s.load (s.call d c).2 = .ok (c.change items)) := by
  have hsorted := sorted_of_load hload
  cases c with
  | get key =>
      refine ⟨?_, h, fun _ => hload⟩
      simp only [call, getItem, hload]
      rfl
  | set key value =>
      obtain ⟨d', hupdate, hwritable, hloads⟩ :=
        update_eq (Items.insert key value) h hload (hsorted.insert key value)
      simp only [call, setItem, hupdate]
      exact ⟨rfl, hwritable, hloads⟩
  | remove key =>
      obtain ⟨d', hupdate, hwritable, hloads⟩ :=
        update_eq (Items.erase key) h hload (hsorted.erase key)
      simp only [call, removeItem, hupdate]
      exact ⟨rfl, hwritable, hloads⟩

-- The storages on the path answer as one in memory, and at the end the file holds the same items.
theorem callAll_eq {s : FileStorage} {d : Directory} {items : Items}
    {calls : List (FileStorage × Call)} (h : s.Writable d) (hload : s.load d = .ok items)
    (hpath : ∀ c ∈ calls, c.1.path = s.path) (hsize : s.SizesFit d calls) :
    (callAll d calls).1 = ((Storage.ofMemory items).callAll (calls.map Prod.snd)).1 ∧
      ∃ after, s.load (callAll d calls).2 = .ok after ∧
        ((Storage.ofMemory items).callAll (calls.map Prod.snd)).2 = Storage.ofMemory after := by
  induction calls generalizing d items with
  | nil => exact ⟨rfl, items, hload, rfl⟩
  | cons c calls ih =>
      obtain ⟨other, c⟩ := c
      obtain rfl : other = s := by
        cases other
        cases s
        simpa using hpath _ List.mem_cons_self
      obtain ⟨hanswer, hwritable, hloads⟩ := call_eq c h hload
      have hnext := hloads fun bytes hbytes =>
        hsize [(other, c)] (List.prefix_cons_inj (other, c) |>.mpr (List.nil_prefix)) bytes hbytes
      obtain ⟨hrest, after, hafter, hmemory⟩ := ih hwritable hnext
        (fun c hc => hpath c (List.mem_cons_of_mem _ hc)) hsize.tail
      rw [← Storage.call_ofMemory] at hrest hmemory
      refine ⟨?_, after, hafter, hmemory⟩
      simp only [callAll, Storage.callAll, List.map_cons, Prod.map, hrest, hanswer]

-- A check of all sizes that can be computed.
theorem sizesFit_of_inits {s : FileStorage} {d : Directory} {calls : List (FileStorage × Call)}
    (h : ∀ front ∈ calls.inits,
      ((callAll d front).2.contents s.path.names).toOption.all (·.size ≤ sizeLimit)) :
    s.SizesFit d calls := by
  intro front hfront bytes hbytes
  have hall := h front ((List.mem_inits front calls).mpr hfront)
  rw [hbytes] at hall
  exact of_decide_eq_true hall

-- The storages on a path answer as one in memory, every change is made, and the file holds what the
-- memory holds. The text of any items is read as those items.
theorem file_answers_as_memory (s : FileStorage) (d : Directory) (items : Items)
    (calls : List (FileStorage × Call)) (hfile : s.NamesFile d) (hscratch : s.ScratchFree d)
    (hload : s.load d = .ok items) (hpath : ∀ c ∈ calls, c.1.path = s.path)
    (hsize : s.SizesFit d calls) :
    (callAll d calls).1 = ((Storage.ofMemory items).callAll (calls.map Prod.snd)).1 ∧
      (∀ result, .written result ∈ (callAll d calls).1 → result = .ok ()) ∧
      (∃ after, s.load (callAll d calls).2 = .ok after ∧
        ((Storage.ofMemory items).callAll (calls.map Prod.snd)).2 = Storage.ofMemory after) ∧
      ∀ table : Items, table.Sorted →
        (Toml.readTexts (Toml.render table)).map Items.ofEntries = .ok table := by
  obtain ⟨hanswers, hafter⟩ := callAll_eq (hfile.writable hscratch) hload hpath hsize
  refine ⟨hanswers, fun result hresult => ?_, hafter, fun table hsorted => ?_⟩
  · rw [hanswers] at hresult
    exact Storage.written_ofMemory hresult
  · rw [Toml.readTexts_render_entries table hsorted.nodup_names]
    exact congrArg Except.ok hsorted.ofEntries_eq

-- Two storages of one file, and characters that need every style of text.
theorem file_answers_as_memory_quotes :
    let s : FileStorage := ⟨⟨"session.toml"⟩⟩
    let d : Directory := ⟨[(["session.toml"], .file "a = 'x'\n".toUTF8)]⟩
    let calls : List (FileStorage × Call) :=
      [(s, .set "q\"\n" "it's \"\"\"\n\\\t\u0001"), (⟨⟨"session.toml"⟩⟩, .get "q\"\n"),
        (s, .remove "a"), (s, .set "" "'"), (⟨⟨"session.toml"⟩⟩, .get "a")]
    (callAll d calls).1 = ((Storage.ofMemory [("a", "x")]).callAll (calls.map Prod.snd)).1 := by
  intro s d calls
  refine (file_answers_as_memory s d [("a", "x")] calls
    ⟨by decide +kernel, ["session.toml"], by decide +kernel, by decide +kernel⟩
    ⟨by decide +kernel, by decide +kernel, by decide +kernel⟩ (by decide +kernel)
    (by decide +kernel) ?_).1
  exact sizesFit_of_inits (by decide +kernel)

-- Points and slashes in front of a name, which lead nowhere else.
def idle (n : Nat) : List Char := (List.replicate n ['.', '/']).flatten

theorem isFront_idle (n : Nat) : FilePath.IsFront (idle n) := by
  cases n with
  | zero => exact Or.inl rfl
  | succ n =>
      refine Or.inr ⟨idle n ++ ['.'], ?_⟩
      rw [idle, List.replicate_succ', List.flatten_concat, List.append_assoc]
      rfl

theorem parts_idle (n : Nat) : FilePath.parts (idle n) = [] := by
  induction n with
  | zero => rfl
  | succ n ih => exact (FilePath.parts_split ['.'] (idle n)).trans ih

theorem utf8ByteSize_idle (n : Nat) : (String.ofList (idle n)).utf8ByteSize = 2 * n := by
  induction n with
  | zero => rfl
  | succ n ih =>
      have hsplit : String.ofList (idle (n + 1)) = "./" ++ String.ofList (idle n) := by
        simp [idle, List.replicate_succ, ← String.toList_inj]
      have htwo : "./".utf8ByteSize = 2 := by decide
      rw [hsplit, String.utf8ByteSize_append, ih, htwo]
      omega

-- A file in the topmost folder, under a path that may be longer than its name.
def behind (n : Nat) (cs : List Char) : FileStorage := ⟨⟨String.ofList (idle n ++ cs)⟩⟩

section Behind

variable {n : Nat} {cs : List Char} (hslash : '/' ∉ cs) (hpoint : '.' ∉ cs)
  (hempty : cs ≠ [])

include hslash hpoint hempty

theorem names_behind : (behind n cs).path.names = [String.ofList cs] := by
  have hroot : FilePath.root (idle n ++ cs) = [] := by
    cases n with
    | zero => exact if_neg fun hhead => hslash (List.mem_of_mem_head? hhead)
    | succ n => rfl
  rw [behind, FilePath.names_plain (isFront_idle n) hslash hpoint hempty, parts_idle, hroot]
  rfl

theorem scratch_behind : (behind n cs).scratch =
    ⟨String.ofList (idle n ++ cs) ++ "." ++ "tmp"⟩ :=
  FilePath.withExtension_plain (isFront_idle n) hslash hpoint hempty "tmp"

theorem scratchNames_behind :
    (behind n cs).scratchNames = [String.ofList cs ++ "." ++ "tmp"] := by
  have hordinary := FilePath.ordinary_ofList hslash
    (fun heq => hpoint (heq ▸ List.mem_singleton_self _)) fun heq => hpoint (heq ▸ by decide)
  rw [scratchNames_eq_renamed, names_behind hslash hpoint hempty, FilePath.renamed,
    if_neg hordinary, String.toList_ofList, FilePath.stem_plain hpoint]

theorem size_scratch_behind : (behind n cs).scratch.text.utf8ByteSize =
    2 * n + (String.ofList cs).utf8ByteSize + 4 := by
  have hfour : ".".utf8ByteSize + "tmp".utf8ByteSize = 4 := by decide
  rw [scratch_behind hslash hpoint hempty]
  simp only [String.ofList_append, String.utf8ByteSize_append, utf8ByteSize_idle]
  omega

-- The scratch file has a place in the topmost folder, unless its name is too long.
theorem locate_scratch_behind : Directory.locate {} (behind n cs).scratchNames =
    if Directory.nameLimit < (String.ofList cs).utf8ByteSize + 4 then .error .nameTooLong
    else .ok (behind n cs).scratchNames := by
  have hsize : (String.ofList cs ++ "." ++ "tmp").utf8ByteSize =
      (String.ofList cs).utf8ByteSize + 4 := by
    rw [String.utf8ByteSize_append, String.utf8ByteSize_append]
    rfl
  have hlength : 3 < (String.ofList cs ++ "." ++ "tmp").length := by
    have hpos := List.length_pos_iff.mpr hempty
    have hend : ".".length + "tmp".length = 4 := by decide
    simp only [String.length_append, String.length_ofList]
    omega
  rw [scratchNames_behind hslash hpoint hempty]
  generalize String.ofList cs ++ "." ++ "tmp" = name at hsize hlength
  have hordinary : name ≠ ".." ∧ name ≠ "." := by
    constructor <;> rintro rfl <;> exact absurd hlength (by decide)
  simp [Directory.locate, Directory.follow, hordinary, hsize]

theorem stat_scratch_behind : Directory.stat {} (behind n cs).scratchNames ≠ .ok .folder := by
  have hnone : Directory.node? {} (behind n cs).scratchNames = none := by
    rw [scratchNames_behind hslash hpoint hempty]
    rfl
  intro hstat
  rw [Directory.stat, locate_scratch_behind hslash hpoint hempty] at hstat
  split_ifs at hstat
  · cases hstat
  · simp only [bind, Except.bind, hnone] at hstat
    cases hstat

variable (hnul : '\x00' ∉ cs) (hname : (String.ofList cs).utf8ByteSize ≤ Directory.nameLimit)
  (hpath : 2 * n + (String.ofList cs).utf8ByteSize < FilePath.lengthLimit)

include hnul hname hpath

-- It can be made, and as long as it is not there it reads as nothing.
theorem namesFile_behind : (behind n cs).NamesFile {} ∧ (behind n cs).load {} = .ok [] := by
  have hsize : (String.ofList (idle n ++ cs)).utf8ByteSize =
      2 * n + (String.ofList cs).utf8ByteSize := by
    rw [String.ofList_append, String.utf8ByteSize_append, utf8ByteSize_idle]
  have hidle : '\x00' ∉ idle n := by simp [idle]
  have htaken : (behind n cs).path.fault? = none := by
    refine FilePath.fault?_eq_none.mpr ⟨?_, hsize ▸ hpath⟩
    simpa [behind] using ⟨hidle, hnul⟩
  have hordinary : String.ofList cs ≠ ".." ∧ String.ofList cs ≠ "." := by
    have hnot := FilePath.ordinary_ofList hslash
      (fun heq => hpoint (heq ▸ List.mem_singleton_self _)) fun heq => hpoint (heq ▸ by decide)
    exact ⟨fun heq => hnot (Or.inl heq), fun heq => hnot (Or.inr (Or.inr heq))⟩
  have hplace : Directory.locate {} (behind n cs).path.names = .ok [String.ofList cs] := by
    rw [names_behind hslash hpoint hempty]
    simp [Directory.locate, Directory.follow, hordinary, Nat.not_lt.mpr hname]
  have hfree : Directory.node? {} [String.ofList cs] = none := by simp [Directory.node?]
  refine ⟨⟨FilePath.isFilePath_iff.mpr
    ⟨htaken, FilePath.isFolderPath_plain hslash hpoint hempty⟩, _, hplace, ?_⟩, ?_⟩
  · rw [hfree]
    simp
  · have hlook : Directory.look {} (behind n cs).path = .error .noEntry := by
      rw [Directory.look_of_taken htaken, Directory.stat, hplace]
      simp only [bind, Except.bind, hfree]
      rfl
    simp only [load, hlook]
    rfl

end Behind

-- The storages on a path make every change, if the scratch file is no folder and meets a condition.
def AlwaysWritten (P : FileStorage → Prop) : Prop :=
  ∀ (s : FileStorage) (d : Directory) (items : Items) (calls : List (FileStorage × Call)),
    s.NamesFile d → d.stat s.scratchNames ≠ .ok .folder → P s → s.load d = .ok items →
    (∀ c ∈ calls, c.1.path = s.path) → s.SizesFit d calls →
    ∀ result, .written result ∈ (callAll d calls).1 → result = .ok ()

-- A storage whose first step fails where there are no files yet.
theorem not_alwaysWritten {P : FileStorage → Prop} {s : FileStorage} {f : SystemFault} (hP : P s)
    (hfile : s.NamesFile {} ∧ s.load {} = .ok [])
    (hfree : Directory.stat {} s.scratchNames ≠ .ok .folder)
    (hfirst : Directory.step {} s.makeScratch = .error f) : ¬ AlwaysWritten P := by
  intro hall
  have hcall : s.call {} (.set "k" "v") = (.written (.error (.ofSystem f)), {}) := by
    rw [call, setItem, update, hfile.2]
    dsimp only
    rw [save_of_step_error hfirst]
    rfl
  -- no file is ever made, so that there is no size to speak of
  have hsizes : s.SizesFit {} [(s, .set "k" "v")] := by
    intro front hfront bytes hbytes
    have hnothing : (callAll {} front).2 = {} := by
      obtain rfl | rfl : front = [] ∨ front = [(s, .set "k" "v")] := by
        simpa [List.prefix_cons_iff] using hfront
      · rfl
      · rw [callAll, hcall]
        rfl
    rw [hnothing] at hbytes
    exact absurd hbytes (Directory.contents_empty _ _)
  have hresult := hall s {} [] [(s, .set "k" "v")] hfile.1 hfree hP hfile.2 (by simp) hsizes
    (.error (.ofSystem f))
  simp [callAll, hcall] at hresult

section Long

variable {n : Nat} {cs : List Char} (hslash : '/' ∉ cs) (hpoint : '.' ∉ cs) (hempty : cs ≠ [])
  (hnul : '\x00' ∉ cs) (hname : (String.ofList cs).utf8ByteSize ≤ Directory.nameLimit)

include hslash hpoint hempty hnul hname

-- A name that leaves no room for the extension of the scratch file is one for a file all the same.
theorem not_alwaysWritten_of_name
    (hlong : Directory.nameLimit < (String.ofList cs).utf8ByteSize + 4)
    (hpath : 2 * n + (String.ofList cs).utf8ByteSize + 4 < FilePath.lengthLimit) :
    ¬ AlwaysWritten (fun s => s.scratch.text.utf8ByteSize < FilePath.lengthLimit) := by
  have hfile := namesFile_behind hslash hpoint hempty hnul hname
    ((Nat.le_add_right _ 4).trans_lt hpath)
  have hshort : (behind n cs).scratch.text.utf8ByteSize < FilePath.lengthLimit := by
    rwa [size_scratch_behind hslash hpoint hempty]
  have hplace := locate_scratch_behind (n := n) hslash hpoint hempty
  rw [if_pos hlong] at hplace
  have htaken := FilePath.fault?_withExtension hfile.1.taken (by decide) hshort
  exact not_alwaysWritten hshort hfile (stat_scratch_behind hslash hpoint hempty)
    (step_unplaced htaken hplace)

-- So is a path that leaves no room for it, whatever its names are.
theorem not_alwaysWritten_of_path
    (hpath : 2 * n + (String.ofList cs).utf8ByteSize < FilePath.lengthLimit)
    (hlong : FilePath.lengthLimit ≤ 2 * n + (String.ofList cs).utf8ByteSize + 4)
    (hshort : (String.ofList cs).utf8ByteSize + 4 ≤ Directory.nameLimit) :
    ¬ AlwaysWritten (fun s =>
      ∀ name ∈ s.scratchNames.getLast?, name.utf8ByteSize ≤ Directory.nameLimit) := by
  have hfile := namesFile_behind hslash hpoint hempty hnul hname hpath
  have hfault : (behind n cs).scratch.fault? = some .nameTooLong := by
    refine FilePath.fault?_of_long ?_ (by rwa [size_scratch_behind hslash hpoint hempty])
    rw [scratch_behind hslash hpoint hempty]
    simp [idle, hnul]
  have hfirst : Directory.step {} (behind n cs).makeScratch = .error .nameTooLong := by
    rw [makeScratch, Directory.Step.under, hfault]
    rfl
  refine not_alwaysWritten ?_ hfile (stat_scratch_behind hslash hpoint hempty) hfirst
  rw [scratchNames_behind hslash hpoint hempty]
  intro name hlast
  obtain rfl : String.ofList cs ++ "." ++ "tmp" = name := by simpa using hlast
  rw [String.utf8ByteSize_append, String.utf8ByteSize_append]
  exact hshort

end Long

-- A name of 252 bytes, and a path of 4093 bytes with a short name. Neither condition on the file
-- that is written first makes up for the other.
theorem scratch_name_too_long :
    ¬ AlwaysWritten (fun s => s.scratch.text.utf8ByteSize < FilePath.lengthLimit) ∧
    ¬ AlwaysWritten (fun s =>
      ∀ name ∈ s.scratchNames.getLast?, name.utf8ByteSize ≤ Directory.nameLimit) := by
  have hcs : ∀ c, c ≠ 'x' → c ∉ List.replicate 252 'x' := fun c hc hmem =>
    hc (List.eq_of_mem_replicate hmem)
  have hsize := utf8ByteSize_replicate 252 'x'
  constructor
  · exact not_alwaysWritten_of_name (n := 0) (hcs '/' (by decide)) (hcs '.' (by decide))
      (List.cons_ne_nil _ _) (hcs '\x00' (by decide)) (hsize ▸ by decide) (hsize ▸ by decide)
      (hsize ▸ by decide)
  · have hslash : '/' ∉ ['x'] := by decide
    exact not_alwaysWritten_of_path (n := 2046) hslash (by decide) (by decide) (by decide)
      (by decide) (by decide) (by decide) (by decide)

end FileStorage

end ProfileSession
