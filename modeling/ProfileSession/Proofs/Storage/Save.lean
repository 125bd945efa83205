import Mathlib.Tactic.Common
import ProfileSession.Proofs.FilePath
import ProfileSession.Proofs.Storage.Items
import ProfileSession.Proofs.Toml.RoundTrip
import ProfileSession.Storage.FileStorage

namespace ProfileSession

namespace Directory

@[simp] theorem node?_nil (d : Directory) : d.node? [] = some .folder := rfl

theorem node?_put_self (d : Directory) {place : List String} (n : Node) (h : place ≠ []) :
    (d.put place n).node? place = some n := by
  simp [node?, put, h]

theorem node?_put_of_ne (d : Directory) {place q : List String} (n : Node) (h : q ≠ place) :
    (d.put place n).node? q = d.node? q := by
  simp [node?, put, List.lookup_cons, beq_eq_false_iff_ne.mpr h, Items.lookup_filter_ne _ h]

theorem node?_delete_self (d : Directory) {place : List String} (h : place ≠ []) :
    (d.delete place).node? place = none := by
  simp [node?, delete, h, Items.lookup_filter_self]

theorem node?_delete_of_ne (d : Directory) {place q : List String} (h : q ≠ place) :
    (d.delete place).node? q = d.node? q := by
  simp [node?, delete, Items.lookup_filter_ne _ h]

-- Every folder of one directory is a folder of the other. Names lead to the same places in both,
-- since only folders lie on the way.
def FoldersOf (d d' : Directory) : Prop :=
  ∀ q, d.node? q = some .folder → d'.node? q = some .folder

theorem FoldersOf.follow {d d' : Directory} (h : d.FoldersOf d') {place r : List String}
    {names : List String} (hr : d.follow place names = .ok r) : d'.follow place names = .ok r := by
  induction names generalizing place with
  | nil => exact hr
  | cons name names ih =>
      unfold Directory.follow at hr ⊢
      cases hn : d.node? place with
      | none => simp [hn] at hr
      | some n =>
          cases n with
          | file bytes => simp [hn] at hr
          | folder =>
              simp only [hn, h place hn] at hr ⊢
              split_ifs at hr ⊢ <;> exact ih hr

theorem FoldersOf.locate {d d' : Directory} (h : d.FoldersOf d') {r names : List String}
    (hr : d.locate names = .ok r) : d'.locate names = .ok r := by
  unfold Directory.locate at hr ⊢
  split_ifs at hr ⊢ with hempty
  exact h.follow hr

theorem foldersOf_put {d : Directory} {place : List String} (n : Node)
    (h : d.node? place ≠ some .folder) : d.FoldersOf (d.put place n) := by
  intro q hq
  have hne : q ≠ place := fun heq => h (heq ▸ hq)
  rw [node?_put_of_ne d n hne, hq]

-- A place that names lead to, where a file is or may be made.
def IsFilePlace (d : Directory) (names place : List String) : Prop :=
  d.locate names = .ok place ∧ d.node? place ≠ some .folder

theorem IsFilePlace.ne_nil {d : Directory} {names place : List String}
    (h : d.IsFilePlace names place) : place ≠ [] := by
  rintro rfl
  exact h.2 rfl

theorem step_truncate {d : Directory} {names place : List String}
    (h : d.IsFilePlace names place) :
    d.step (.truncate names) = .ok (d.put place (.file .empty)) := by
  obtain ⟨hplace, hnode⟩ := h
  simp only [step, hplace, bind, Except.bind]
  cases hn : d.node? place with
  | none => rfl
  | some n =>
      cases n with
      | file bytes => rfl
      | folder => exact absurd hn hnode

theorem step_append {d : Directory} {names place : List String} {old : ByteArray}
    (hplace : d.locate names = .ok place) (hnode : d.node? place = some (.file old))
    (bytes : ByteArray) :
    d.step (.append names bytes) = .ok (d.put place (.file (old ++ bytes))) := by
  simp only [step, hplace, hnode, bind, Except.bind]
  rfl

theorem step_rename {d : Directory} {source target s t : List String} {bytes : ByteArray}
    (hs : d.locate source = .ok s) (hfile : d.node? s = some (.file bytes))
    (ht : d.IsFilePlace target t) :
    d.step (.rename source target) =
      .ok (if s = t then d else (d.delete s).put t (.file bytes)) := by
  obtain ⟨htarget, hnode⟩ := ht
  simp only [step, hs, htarget, hfile, bind, Except.bind]
  cases hn : d.node? t with
  | none => split_ifs <;> rfl
  | some n =>
      cases n with
      | file _ => split_ifs <;> rfl
      | folder => exact absurd hn hnode

-- The files after one of them was made anew with some bytes.
def written (d : Directory) (place : List String) (bytes : ByteArray) : Directory :=
  (d.put place (.file .empty)).put place (.file bytes)

theorem node?_written_self {d : Directory} {place : List String} {bytes : ByteArray}
    (h : place ≠ []) : (d.written place bytes).node? place = some (.file bytes) :=
  node?_put_self _ _ h

theorem node?_written_of_ne {d : Directory} {place p : List String} {bytes : ByteArray}
    (h : p ≠ place) : (d.written place bytes).node? p = d.node? p := by
  rw [written, node?_put_of_ne _ _ h, node?_put_of_ne _ _ h]

theorem foldersOf_written {d : Directory} {place : List String} (bytes : ByteArray)
    (h : d.node? place ≠ some .folder) : d.FoldersOf (d.written place bytes) := by
  intro q hq
  have hne : q ≠ place := fun heq => h (heq ▸ hq)
  rw [node?_written_of_ne hne, hq]

-- A file is made anew, whatever is done after that.
theorem run_write {d : Directory} {names place : List String} (bytes : ByteArray)
    (h : d.IsFilePlace names place) (steps : List Step) :
    d.run (.truncate names :: .append names bytes :: steps) =
      (d.written place bytes).run steps := by
  have hfirst : (d.put place (.file .empty)).node? place = some (.file .empty) :=
    node?_put_self d _ h.ne_nil
  have hplace := (foldersOf_put (.file .empty) h.2).locate h.1
  simp only [run, step_truncate h, step_append hplace hfirst, ByteArray.empty_append, written]

-- All folders are there still where no node has changed but at two places for files.
theorem foldersOf_of_others {d d' : Directory} {source target s t : List String}
    (hs : d.IsFilePlace source s) (ht : d.IsFilePlace target t)
    (h : ∀ q, q ≠ s → q ≠ t → d'.node? q = d.node? q) : d.FoldersOf d' := by
  intro q hq
  have hqs : q ≠ s := fun heq => hs.2 (heq ▸ hq)
  have hqt : q ≠ t := fun heq => ht.2 (heq ▸ hq)
  rw [h q hqs hqt, hq]

-- The steps that replace a file by way of another one, which is gone afterwards.
theorem run_replace {d : Directory} {source target s t : List String} (bytes : ByteArray)
    (hs : d.IsFilePlace source s) (ht : d.IsFilePlace target t) :
    ∃ d', d.run [.truncate source, .append source bytes, .rename source target] = (.ok (), d') ∧
      d'.node? t = some (.file bytes) ∧ (s ≠ t → d'.node? s = none) ∧
      ∀ q, q ≠ s → q ≠ t → d'.node? q = d.node? q := by
  let d₁ := d.written s bytes
  have hfolders : d.FoldersOf d₁ := foldersOf_written bytes hs.2
  have hfile : d₁.node? s = some (.file bytes) := node?_written_self hs.ne_nil
  have hother : ∀ q, q ≠ s → d₁.node? q = d.node? q := fun q hq => node?_written_of_ne hq
  have htarget : d₁.IsFilePlace target t := by
    refine ⟨hfolders.locate ht.1, ?_⟩
    by_cases hst : t = s
    · rw [hst, hfile]
      simp
    · rw [hother t hst]
      exact ht.2
  have hrun : d.run [.truncate source, .append source bytes, .rename source target] =
      (.ok (), if s = t then d₁ else (d₁.delete s).put t (.file bytes)) := by
    rw [run_write bytes hs]
    simp only [run, step_rename (hfolders.locate hs.1) hfile htarget, d₁]
  refine ⟨_, hrun, ?_⟩
  split_ifs with hst
  · exact ⟨hst ▸ hfile, fun hne => absurd hst hne, fun q hq _ => hother q hq⟩
  · refine ⟨node?_put_self _ _ ht.ne_nil, fun _ => ?_, fun q hqs hqt => ?_⟩
    · rw [node?_put_of_ne _ _ hst, node?_delete_self d₁ hs.ne_nil]
    · rw [node?_put_of_ne _ _ hqt, node?_delete_of_ne d₁ hqs, hother q hqs]

theorem follow_append (d : Directory) (place : List String) (front back : List String) :
    d.follow place (front ++ back) = (d.follow place front).bind fun q => d.follow q back := by
  induction front generalizing place with
  | nil => rfl
  | cons name front ih =>
      rw [List.cons_append, follow, follow]
      cases d.node? place with
      | none => rfl
      | some n =>
          cases n with
          | file bytes => rfl
          | folder =>
              dsimp only
              split_ifs <;> first | rfl | exact ih _

theorem stat_of_node? {d : Directory} {names place : List String} {n : Node}
    (hplace : d.locate names = .ok place) (hn : d.node? place = some n) :
    d.stat names = .ok n := by
  simp only [stat, hplace, hn, bind, Except.bind]
  rfl

theorem look_of_taken {d : Directory} {p : FilePath} (h : p.fault? = none) :
    d.look p = d.stat p.names := by
  rw [look, h]

theorem under_of_taken {p : FilePath} (h : p.fault? = none) (s : List String → Step) :
    Step.under p s = s p.names := by
  rw [Step.under, h]

theorem contents_of_file {d : Directory} {names place : List String} {bytes : ByteArray}
    (hplace : d.locate names = .ok place) (hfile : d.node? place = some (.file bytes)) :
    d.contents names = .ok bytes := by
  simp only [contents, stat_of_node? hplace hfile, bind, Except.bind]
  rfl

-- Where no node is listed, there is no file.
theorem contents_empty (names : List String) (bytes : ByteArray) :
    contents {} names ≠ .ok bytes := by
  have hnode : ∀ place, node? {} place ≠ some (.file bytes) := by
    intro place
    unfold node?
    split_ifs <;> simp
  intro h
  simp only [contents, stat, bind, Except.bind] at h
  cases hplace : locate {} names with
  | error f => simp [hplace] at h
  | ok place =>
      rw [hplace] at h
      cases hn : node? {} place with
      | none => simp [hn, throw, throwThe, MonadExceptOf.throw] at h
      | some n =>
          cases n with
          | file old =>
              simp only [hn, pure, Except.pure, Except.ok.injEq] at h
              exact hnode place (h ▸ hn)
          | folder => simp [hn, pure, Except.pure, throw, throwThe, MonadExceptOf.throw] at h

theorem locate_last_eq (d : Directory) (front : List String) (name : String) :
    d.locate (front ++ [name]) = (d.follow [] front).bind fun q => d.follow q [name] := by
  rw [locate, if_neg (by simp), follow_append]

-- Names that lead somewhere lead there through a folder.
theorem folder_of_locate {d : Directory} {front : List String} {name : String}
    {place : List String} (h : d.locate (front ++ [name]) = .ok place) :
    ∃ folder, d.follow [] front = .ok folder ∧ d.node? folder = some .folder := by
  rw [locate_last_eq] at h
  cases hfront : d.follow [] front with
  | error f => simp [hfront, Except.bind] at h
  | ok folder =>
      refine ⟨folder, rfl, ?_⟩
      simp only [hfront, Except.bind, follow] at h
      cases hn : d.node? folder with
      | none => simp [hn] at h
      | some n =>
          cases n with
          | file bytes => simp [hn] at h
          | folder => rfl

-- Names that differ in the last one only lead into the same folder, unless that one is too long.
theorem locate_last {d : Directory} {front : List String} {name : String} {place : List String}
    (h : d.locate (front ++ [name]) = .ok place) (other : String) :
    ∃ q, d.locate (front ++ [other]) =
      if nameLimit < other.utf8ByteSize then .error .nameTooLong else .ok q := by
  obtain ⟨folder, hfront, hfolder⟩ := folder_of_locate h
  simp only [locate_last_eq, hfront, Except.bind, follow, hfolder]
  exact ⟨_, rfl⟩

-- Where one name leads nowhere, no other name in its place leads anywhere, unless that one alone
-- is too long.
theorem locate_last_error {d : Directory} {front : List String} {name : String} {f : SystemFault}
    (h : d.locate (front ++ [name]) = .error f) (hf : f ≠ .nameTooLong) (other : String) :
    d.locate (front ++ [other]) = .error f := by
  rw [locate_last_eq] at h ⊢
  cases hfront : d.follow [] front with
  | error g =>
      rw [hfront] at h
      exact h
  | ok folder =>
      simp only [hfront, Except.bind, follow] at h ⊢
      cases hn : d.node? folder with
      | none =>
          rw [hn] at h
          exact h
      | some n =>
          cases n with
          | file bytes =>
              rw [hn] at h
              exact h
          | folder =>
              rw [hn] at h
              dsimp only at h
              split_ifs at h
              cases h
              exact absurd rfl hf

end Directory

namespace FileStorage

theorem utf8ByteSize_replicate (n : Nat) (c : Char) :
    (String.ofList (List.replicate n c)).utf8ByteSize = n * c.utf8Size := by
  induction n with
  | zero => simp
  | succ n ih =>
      rw [List.replicate_succ, String.ofList_cons, String.utf8ByteSize_append, ih,
        String.utf8ByteSize_singleton, Nat.succ_mul, Nat.add_comm]

-- The names of the file that is written first differ from those of the other in the last one.
theorem scratchNames_eq_renamed (s : FileStorage) :
    s.scratchNames = FilePath.renamed "tmp" s.path.names :=
  s.path.names_withExtension (by decide)

-- The path is that of a file in a folder that exists; the file itself need not exist.
structure NamesFile (s : FileStorage) (d : Directory) : Prop where
  path : s.path.isFilePath = true
  place : ∃ place, d.IsFilePlace s.path.names place

theorem NamesFile.taken {s : FileStorage} {d : Directory} (h : s.NamesFile d) :
    s.path.fault? = none := (FilePath.isFilePath_iff.mp h.path).1

-- The file that is written first is no folder, and neither its name nor its path is too long for
-- the system.
structure ScratchFree (s : FileStorage) (d : Directory) : Prop where
  notFolder : d.stat s.scratchNames ≠ .ok .folder
  shortName : ∀ name ∈ s.scratchNames.getLast?, name.utf8ByteSize ≤ Directory.nameLimit
  shortPath : s.scratch.text.utf8ByteSize < FilePath.lengthLimit

-- The file that is written first is in the folder of the other, unless its name is too long.
theorem locate_scratch {s : FileStorage} {d : Directory} {place : List String}
    (h : d.locate s.path.names = .ok place) :
    ∃ name q, s.scratchNames.getLast? = some name ∧ d.locate s.scratchNames =
      if Directory.nameLimit < name.utf8ByteSize then .error .nameTooLong else .ok q := by
  rw [scratchNames_eq_renamed]
  rcases List.eq_nil_or_concat' s.path.names with hempty | ⟨front, name, hnames⟩
  · rw [hempty] at h
    cases h
  · rw [hnames] at h
    obtain ⟨other, hother⟩ := FilePath.renamed_last "tmp" name
    obtain ⟨q, hq⟩ := Directory.locate_last h other
    rw [hnames, FilePath.renamed_append, hother]
    exact ⟨other, q, List.getLast?_concat, hq⟩

-- Both files that a save works on can be written.
structure Writable (s : FileStorage) (d : Directory) : Prop extends NamesFile s d where
  scratchTaken : s.scratch.fault? = none
  scratch : ∃ place, d.IsFilePlace s.scratchNames place

theorem NamesFile.writable {s : FileStorage} {d : Directory} (h : s.NamesFile d)
    (hscratch : s.ScratchFree d) : s.Writable d := by
  obtain ⟨place, hplace, hnode⟩ := h.place
  obtain ⟨name, q, hname, hq⟩ := locate_scratch hplace
  rw [if_neg (Nat.not_lt.mpr (hscratch.shortName name hname))] at hq
  have htaken := FilePath.fault?_withExtension h.taken (by decide) hscratch.shortPath
  exact ⟨h, htaken, q, hq, fun hfolder =>
    hscratch.notFolder (Directory.stat_of_node? hq hfolder)⟩

theorem sorted_of_load {s : FileStorage} {d : Directory} {items : Items}
    (h : s.load d = .ok items) : items.Sorted := by
  unfold load at h
  split at h
  · split_ifs at h
    cases h
    exact .nil
  · cases htext : readText d s.path sizeLimit with
    | error e => simp [htext, bind, Except.bind] at h
    | ok text =>
        simp only [htext, bind, Except.bind] at h
        split at h
        · cases h
          exact Items.sorted_ofEntries _
        · cases h

theorem fromUTF8?_toUTF8 (text : String) : String.fromUTF8? text.toUTF8 = some text := by
  have hvalid : text.toUTF8.IsValidUTF8 := text.isValidUTF8
  rw [String.fromUTF8?, dif_pos hvalid]
  rfl

-- What can be read has a path that the system takes.
theorem taken_of_load {s : FileStorage} {d : Directory} {items : Items}
    (h : s.load d = .ok items) : s.path.fault? = none := by
  unfold load Directory.look at h
  cases hfault : s.path.fault? with
  | none => rfl
  | some f =>
      have hkind : f.kind ≠ .notFound := by
        unfold FilePath.fault? at hfault
        split_ifs at hfault <;> cases hfault <;> decide
      simp only [hfault, if_neg hkind] at h
      cases h

-- A file with the text of some items is read as those items.
theorem load_render {s : FileStorage} {d : Directory} {place : List String} {items : Items}
    (hpath : s.path.isFilePath = true) (hplace : d.locate s.path.names = .ok place)
    (hfile : d.node? place = some (.file (Toml.render items).toUTF8))
    (hsize : (Toml.render items).toUTF8.size ≤ sizeLimit) (hsorted : items.Sorted) :
    s.load d = .ok items := by
  obtain ⟨htaken, hfolder⟩ := FilePath.isFilePath_iff.mp hpath
  have hlook : d.look s.path = .ok (.file (Toml.render items).toUTF8) := by
    rw [Directory.look_of_taken htaken, Directory.stat_of_node? hplace hfile]
  have hutf := fromUTF8?_toUTF8 (Toml.render items)
  have htext : readText d s.path sizeLimit = .ok (Toml.render items) := by
    simp only [readText, hlook, hfolder, Nat.not_lt.mpr hsize, hutf, Bool.false_eq_true, ite_false]
  simp only [load, hlook, htext, Toml.readTexts_render_entries items hsorted.nodup_names,
    hsorted.ofEntries_eq, bind, Except.bind]
  rfl

theorem takeName_of_file {s : FileStorage} (h : s.path.isFilePath = true) :
    s.takeName = .rename s.scratchNames s.path.names := by
  obtain ⟨htaken, hfolder⟩ := FilePath.isFilePath_iff.mp h
  rw [takeName, Directory.under_of_taken htaken, if_neg (ne_true_of_eq_false hfolder)]

theorem takeName_of_folder {s : FileStorage} (htaken : s.path.fault? = none)
    (hfolder : s.path.isFolderPath = true) : s.takeName = .refuse s.refusal := by
  rw [takeName, Directory.under_of_taken htaken, if_pos hfolder]

theorem makeScratch_of_taken {s : FileStorage} (h : s.scratch.fault? = none) :
    s.makeScratch = .truncate s.scratchNames := Directory.under_of_taken h _

theorem saveSteps_of_taken {s : FileStorage} (h : s.scratch.fault? = none) (items : Items) :
    s.saveSteps items = [.truncate s.scratchNames,
      .append s.scratchNames (Toml.render items).toUTF8, s.takeName] := by
  rw [saveSteps, makeScratch_of_taken h, Directory.under_of_taken h]
  rfl

-- How a save of a file that can be read ends, and what it leaves of the files.
inductive Saves (s : FileStorage) (items : Items) (d : Directory) :
    Except Error Unit → Directory → Prop
  -- The file that is written first cannot be made.
  | unplaced {f : SystemFault} (hfirst : d.step s.makeScratch = .error f) :
      Saves s items d (.error (.ofSystem f)) d
  -- It was made, and cannot take the name of the other.
  | refused {q : List String} {d' : Directory} (hpath : s.path.isFolderPath = true)
      (htaken : s.scratch.fault? = none) (hq : d.IsFilePlace s.scratchNames q)
      (hfile : d'.node? q = some (.file (Toml.render items).toUTF8))
      (hother : ∀ p, p ≠ q → d'.node? p = d.node? p) :
      Saves s items d (.error (.ofSystem s.refusal)) d'
  | replaced {q t : List String} {d' : Directory} (hpath : s.path.isFilePath = true)
      (htaken : s.scratch.fault? = none) (hq : d.IsFilePlace s.scratchNames q)
      (ht : d.IsFilePlace s.path.names t)
      (hfile : d'.node? t = some (.file (Toml.render items).toUTF8))
      (hgone : q ≠ t → d'.node? q = none)
      (hother : ∀ p, p ≠ q → p ≠ t → d'.node? p = d.node? p) : Saves s items d (.ok ()) d'

-- A save succeeds where both files can be written.
theorem Writable.saves {s : FileStorage} {d : Directory} (h : s.Writable d) (items : Items) :
    ∃ d', s.save items d = (.ok (), d') ∧ s.Saves items d (.ok ()) d' := by
  obtain ⟨t, ht⟩ := h.place
  obtain ⟨q, hq⟩ := h.scratch
  obtain ⟨d', hrun, hfile, hgone, hother⟩ :=
    Directory.run_replace (Toml.render items).toUTF8 hq ht
  refine ⟨d', ?_, .replaced h.path h.scratchTaken hq ht hfile hgone hother⟩
  simp only [save, saveSteps_of_taken h.scratchTaken, takeName_of_file h.path, hrun]
  rfl

-- A save that succeeds leaves the text of the items, in a place where it can be saved again.
theorem Saves.left {s : FileStorage} {d d' : Directory} {items : Items}
    (h : s.Saves items d (.ok ()) d') :
    s.Writable d' ∧ d'.contents s.path.names = .ok (Toml.render items).toUTF8 ∧
      ((Toml.render items).toUTF8.size ≤ sizeLimit → items.Sorted → s.load d' = .ok items) := by
  cases h with
  | @replaced q t d' hpath htaken hq ht hfile hgone hother =>
      have hfolders := Directory.foldersOf_of_others hq ht hother
      have hplace := hfolders.locate ht.1
      have hscratch : d'.node? q ≠ some .folder := by
        by_cases hqt : q = t
        · rw [hqt, hfile]
          simp
        · rw [hgone hqt]
          simp
      exact ⟨⟨⟨hpath, t, hplace, by rw [hfile]; simp⟩, htaken, q, hfolders.locate hq.1, hscratch⟩,
        Directory.contents_of_file hplace hfile, load_render hpath hplace hfile⟩

-- Whatever is read where the text of some items was left, it is those items.
theorem load_rendered {s : FileStorage} {d : Directory} {place : List String}
    {items found : Items} (hplace : d.locate s.path.names = .ok place)
    (hfile : d.node? place = some (.file (Toml.render items).toUTF8)) (hsorted : items.Sorted)
    (hload : s.load d = .ok found) : found = items := by
  have htaken := taken_of_load hload
  have hlook : d.look s.path = .ok (.file (Toml.render items).toUTF8) := by
    rw [Directory.look_of_taken htaken, Directory.stat_of_node? hplace hfile]
  by_cases hpath : s.path.isFolderPath = true
  · simp only [load, hlook, readText, hpath, ite_true, bind, Except.bind] at hload
    cases hload
  · by_cases hsize : (Toml.render items).toUTF8.size ≤ sizeLimit
    · have hfilePath := FilePath.isFilePath_iff.mpr ⟨htaken, eq_false_of_ne_true hpath⟩
      rw [load_render hfilePath hplace hfile hsize hsorted] at hload
      exact (Except.ok.inj hload).symm
    · simp only [load, hlook, readText, hpath, Nat.lt_of_not_le hsize, Bool.false_eq_true,
        ite_false, ite_true, bind, Except.bind] at hload
      cases hload

-- A save that cannot make its first step changes nothing.
theorem save_of_step_error {s : FileStorage} {d : Directory} {f : SystemFault}
    (h : d.step s.makeScratch = .error f) (items : Items) :
    s.save items d = (.error (.ofSystem f), d) := by
  simp only [save, saveSteps, Directory.run, h]
  rfl

-- Where there is no place for the file that is written first, nothing is ever written.
theorem step_unplaced {s : FileStorage} {d : Directory} {f : SystemFault}
    (htaken : s.scratch.fault? = none) (hscratch : d.locate s.scratchNames = .error f) :
    d.step s.makeScratch = .error f := by
  rw [makeScratch_of_taken htaken]
  simp only [Directory.step, hscratch, bind, Except.bind]

theorem node?_of_load {s : FileStorage} {d : Directory} {items : Items} {place : List String}
    (hload : s.load d = .ok items) (hplace : d.locate s.path.names = .ok place) :
    d.node? place ≠ some .folder := by
  intro hfolder
  have hlook : d.look s.path = .ok .folder := by
    rw [Directory.look_of_taken (taken_of_load hload), Directory.stat_of_node? hplace hfolder]
  simp only [load, hlook, readText, bind, Except.bind] at hload
  cases hload

-- Where a missing file has no place, the one that is written first has none either.
theorem locate_scratch_error {s : FileStorage} {d : Directory} {items : Items} {f : SystemFault}
    (hload : s.load d = .ok items) (hplace : d.locate s.path.names = .error f) :
    ∃ g, d.locate s.scratchNames = .error g := by
  have hlook : d.look s.path = .error f := by
    rw [Directory.look_of_taken (taken_of_load hload)]
    simp only [Directory.stat, hplace, bind, Except.bind]
  have hf : f ≠ .nameTooLong := by
    rintro rfl
    simp only [load, hlook] at hload
    split_ifs at hload with hkind
    cases hkind
  rw [scratchNames_eq_renamed]
  rcases List.eq_nil_or_concat' s.path.names with hempty | ⟨front, name, hnames⟩
  · rw [hempty]
    exact ⟨_, rfl⟩
  · obtain ⟨other, hother⟩ := FilePath.renamed_last "tmp" name
    rw [hnames] at hplace
    rw [hnames, FilePath.renamed_append, hother]
    exact ⟨f, Directory.locate_last_error hplace hf other⟩

-- A save that finds a place for its first file.
theorem placed_saves {s : FileStorage} {d : Directory} {held : Items} {q : List String}
    (hload : s.load d = .ok held) (items : Items) (htaken : s.scratch.fault? = none)
    (hq : d.IsFilePlace s.scratchNames q) :
    s.Saves items d (s.save items d).1 (s.save items d).2 := by
  by_cases hpath : s.path.isFolderPath = true
  · have hrun := Directory.run_write (Toml.render items).toUTF8 hq [.refuse s.refusal]
    have hsave : s.save items d = (.error (.ofSystem s.refusal),
        d.written q (Toml.render items).toUTF8) := by
      simp only [save, saveSteps_of_taken htaken,
        takeName_of_folder (taken_of_load hload) hpath, hrun]
      rfl
    rw [hsave]
    exact .refused hpath htaken hq (Directory.node?_written_self hq.ne_nil)
      fun p hp => Directory.node?_written_of_ne hp
  · have hfile := FilePath.isFilePath_iff.mpr ⟨taken_of_load hload, eq_false_of_ne_true hpath⟩
    cases hplace : d.locate s.path.names with
    | error f =>
        obtain ⟨g, hg⟩ := locate_scratch_error hload hplace
        cases hg.symm.trans hq.1
    | ok t =>
        have hwritable : s.Writable d :=
          ⟨⟨hfile, t, hplace, node?_of_load hload hplace⟩, htaken, q, hq⟩
        obtain ⟨d', hsave, hsaves⟩ := hwritable.saves items
        rw [hsave]
        exact hsaves

theorem save_saves {s : FileStorage} {d : Directory} {held : Items} (hload : s.load d = .ok held)
    (items : Items) : s.Saves items d (s.save items d).1 (s.save items d).2 := by
  have hunplaced {f : SystemFault} (hfirst : d.step s.makeScratch = .error f) :
      s.Saves items d (s.save items d).1 (s.save items d).2 := by
    rw [save_of_step_error hfirst]
    exact .unplaced hfirst
  cases hfault : s.scratch.fault? with
  | some f =>
      refine hunplaced (f := f) ?_
      rw [makeScratch, Directory.Step.under, hfault]
      rfl
  | none =>
      cases hscratch : d.locate s.scratchNames with
      | error f => exact hunplaced (step_unplaced hfault hscratch)
      | ok q =>
          by_cases hfolder : d.node? q = some .folder
          · refine hunplaced (f := .isFolder) ?_
            rw [makeScratch_of_taken hfault]
            simp only [Directory.step, hscratch, hfolder, bind, Except.bind]
            rfl
          · exact placed_saves hload items hfault ⟨hscratch, hfolder⟩

-- A change of a file that cannot be read fails; any other saves the changed items.
theorem update_cases {s : FileStorage} {d d' : Directory} {change : Items → Items}
    {r : Except Error Unit} (h : s.update change d = (r, d')) :
    (∃ e, s.load d = .error e ∧ r = .error e ∧ d' = d) ∨
      ∃ items, s.load d = .ok items ∧ s.Saves (change items) d r d' := by
  unfold update at h
  cases hload : s.load d with
  | error e =>
      rw [hload] at h
      cases h
      exact Or.inl ⟨e, rfl, rfl, rfl⟩
  | ok items =>
      rw [hload] at h
      dsimp only at h
      have hsaves := save_saves hload (change items)
      rw [h] at hsaves
      exact Or.inr ⟨items, rfl, hsaves⟩

-- Nothing is read under a path that can only be that of a folder.
theorem getItem_of_folderPath {s : FileStorage} (hpath : s.path.isFolderPath = true)
    (key : String) (d : Directory) : s.getItem key d = none := by
  unfold getItem load
  cases hlook : d.look s.path with
  | error f =>
      dsimp only
      split_ifs <;> rfl
  | ok n =>
      cases n with
      | folder => simp only [readText, hlook, bind, Except.bind]
      | file bytes => simp only [readText, hlook, hpath, ite_true, bind, Except.bind]

-- What was removed is not read again.
theorem getItem_removeItem {s : FileStorage} {d d' : Directory} {key : String}
    (h : s.removeItem key d = (.ok (), d')) : s.getItem key d' = none := by
  rcases update_cases h with ⟨e, -, he, -⟩ | ⟨items, hload, hsaves⟩
  · cases he
  · have hsorted := (sorted_of_load hload).erase key
    cases hsaves with
    | replaced hpath htaken hq ht hfile hgone hother =>
        have hplace := (Directory.foldersOf_of_others hq ht hother).locate ht.1
        unfold getItem
        cases hafter : s.load d' with
        | error e => rfl
        | ok found =>
            rw [load_rendered hplace hfile hsorted hafter]
            simp [Items.get?_erase]

-- A change that fails leaves what can be read as it was.
theorem getItem_of_update_error {s : FileStorage} {d d' : Directory} {change : Items → Items}
    {e : Error} (h : s.update change d = (.error e, d')) (key : String) :
    s.getItem key d' = s.getItem key d := by
  rcases update_cases h with ⟨-, -, -, hd⟩ | ⟨items, -, hsaves⟩
  · rw [hd]
  · cases hsaves with
    | unplaced hfirst => rfl
    | refused hpath htaken hq hfile hother =>
        rw [getItem_of_folderPath hpath, getItem_of_folderPath hpath]

end FileStorage

end ProfileSession
