import ProfileSession.Proofs.Storage.Save

namespace ProfileSession

namespace Directory

-- What may be left where the system stops in a list of steps: between two of them, or while bytes
-- are added, when only the front of them was.
inductive Stops : Directory → List Step → Directory → Prop
  | between (d : Directory) (steps : List Step) : Stops d steps d
  | amid {d d' : Directory} {names : List String} {front : ByteArray}
      (h : d.step (.append names front) = .ok d') (back : ByteArray) (steps : List Step) :
      Stops d (.append names (front ++ back) :: steps) d'
  | after {d d' d'' : Directory} {s : Step} {steps : List Step} (h : d.step s = .ok d')
      (hs : Stops d' steps d'') : Stops d (s :: steps) d''

-- Taking all the steps that can be taken is one of the ways.
theorem stops_run (d : Directory) (steps : List Step) : d.Stops steps (d.run steps).2 := by
  induction steps generalizing d with
  | nil => exact .between d []
  | cons s steps ih =>
      rw [run]
      cases hstep : d.step s with
      | error f => exact .between d _
      | ok d' => exact .after hstep (ih d')

theorem put_put (d : Directory) (place : List String) (n n' : Node) :
    (d.put place n).put place n' = d.put place n' := by
  simp [put, List.filter_filter]

-- What is in a file depends on where its names lead, and on the node there.
theorem contents_congr {d d' : Directory} {names : List String}
    (hlocate : d'.locate names = d.locate names)
    (hnode : ∀ place, d.locate names = .ok place → d'.node? place = d.node? place) :
    d'.contents names = d.contents names := by
  simp only [contents, stat, hlocate, bind, Except.bind]
  cases hplace : d.locate names with
  | error f => rfl
  | ok place => simp only [hnode place hplace]

theorem isFilePlace_of_truncate {d d' : Directory} {names : List String}
    (h : d.step (.truncate names) = .ok d') :
    ∃ place, d.IsFilePlace names place ∧ d' = d.put place (.file .empty) := by
  cases hplace : d.locate names with
  | error f => simp [step, hplace, bind, Except.bind] at h
  | ok place =>
      have hfile : d.IsFilePlace names place := by
        refine ⟨hplace, fun hfolder => ?_⟩
        simp [step, hplace, hfolder, bind, Except.bind, throw, throwThe, MonadExceptOf.throw] at h
      rw [step_truncate hfile] at h
      exact ⟨place, hfile, (Except.ok.inj h).symm⟩

-- Adding bytes to the file that was just made empty.
theorem step_append_truncated {d : Directory} {names place : List String}
    (h : d.IsFilePlace names place) (bytes : ByteArray) :
    (d.put place (.file .empty)).step (.append names bytes) = .ok (d.put place (.file bytes)) := by
  have hplace := (foldersOf_put (.file .empty) h.2).locate h.1
  rw [step_append hplace (node?_put_self d _ h.ne_nil), ByteArray.empty_append, put_put]

-- A file that is made anew is left with some front of its bytes, or the later steps begin.
theorem stops_write {d d' : Directory} {names : List String} {bytes : ByteArray}
    {steps : List Step} (h : d.Stops (.truncate names :: .append names bytes :: steps) d') :
    d' = d ∨ ∃ place, d.IsFilePlace names place ∧
      ((∃ front back, front ++ back = bytes ∧ d' = d.put place (.file front)) ∨
        (d.put place (.file bytes)).Stops steps d') := by
  cases h with
  | between => exact Or.inl rfl
  | after hfirst hlater =>
      obtain ⟨place, hplace, rfl⟩ := isFilePlace_of_truncate hfirst
      refine Or.inr ⟨place, hplace, ?_⟩
      cases hlater with
      | between => exact Or.inl ⟨.empty, bytes, ByteArray.empty_append, rfl⟩
      | amid hamid back =>
          rw [step_append_truncated hplace] at hamid
          exact Or.inl ⟨_, back, rfl, (Except.ok.inj hamid).symm⟩
      | after hsecond hrest =>
          rw [step_append_truncated hplace] at hsecond
          cases hsecond
          exact Or.inr hrest

-- Every front of its bytes may be all that is left.
theorem stops_front {d : Directory} {names place : List String} (h : d.IsFilePlace names place)
    {front back bytes : ByteArray} (hbytes : front ++ back = bytes) (steps : List Step) :
    d.Stops (.truncate names :: .append names bytes :: steps) (d.put place (.file front)) := by
  subst hbytes
  exact .after (step_truncate h) (.amid (step_append_truncated h front) back steps)

-- The last name is that of a node in this folder, unless it is one of the two that lead elsewhere.
theorem locate_concat {d : Directory} {front folder : List String} {name : String}
    (hfront : d.follow [] front = .ok folder) (hfolder : d.node? folder = some .folder)
    (hname : name ≠ ".." ∧ name ≠ ".") :
    d.locate (front ++ [name]) =
      if nameLimit < name.utf8ByteSize then .error .nameTooLong else .ok (folder ++ [name]) := by
  simp only [locate_last_eq, hfront, Except.bind, follow, hfolder, if_neg hname.1, if_neg hname.2]

-- A file that takes another name has the same contents under it.
theorem contents_of_rename {d d' : Directory} {source target s : List String} {bytes : ByteArray}
    (hs : d.locate source = .ok s) (hfile : d.node? s = some (.file bytes))
    (h : d.step (.rename source target) = .ok d') : d'.contents target = .ok bytes := by
  cases htarget : d.locate target with
  | error f => simp [step, hs, htarget, bind, Except.bind] at h
  | ok t =>
      have hsource : d.IsFilePlace source s := ⟨hs, by rw [hfile]; simp⟩
      have ht : d.IsFilePlace target t := by
        refine ⟨htarget, fun hfolder => ?_⟩
        simp [step, hs, htarget, hfile, hfolder, bind, Except.bind, throw, throwThe,
          MonadExceptOf.throw] at h
      rw [step_rename hs hfile ht, Except.ok.injEq] at h
      subst h
      split_ifs with hst
      · exact contents_of_file htarget (hst ▸ hfile)
      · refine contents_of_file ?_ (node?_put_self _ _ ht.ne_nil)
        refine (foldersOf_of_others hsource ht fun q hqs hqt => ?_).locate htarget
        rw [node?_put_of_ne _ _ hqt, node?_delete_of_ne d hqs]

end Directory

-- Every entry has at least the sign between its name and its text, and a blank before it.
theorem Toml.two_le_size_render {es : List (String × String)} (h : es ≠ []) :
    2 ≤ (render es).toUTF8.size := by
  obtain ⟨e, he⟩ := List.exists_mem_of_ne_nil es h
  have hsign : [' ', '='] <:+: entryText e :=
    ⟨keyText e.1.toList, ' ' :: valueText e.2.toList ++ ['\n'], by simp [entryText]⟩
  have hentry : (entryText e).Sublist (es.flatMap entryText) :=
    List.sublist_flatten_of_mem (List.mem_map_of_mem he)
  have hle : String.utf8Len [' ', '='] ≤ (render es).utf8ByteSize := by
    rw [render, String.utf8ByteSize_ofList]
    exact String.utf8Len_le_of_sublist (hsign.sublist.trans hentry)
  exact hle

-- Bytes from two on have two fronts besides all of them, and a file held one of these at most.
theorem exists_front_ne {bytes : ByteArray} (h : 2 ≤ bytes.size)
    (held : Except SystemFault ByteArray) :
    ∃ front back, front ++ back = bytes ∧ .ok front ≠ held ∧ front ≠ bytes := by
  by_cases hempty : held = .ok .empty
  · have hcut : bytes.extract 0 1 ++ bytes.extract 1 bytes.size = bytes := by
      rw [ByteArray.extract_append_extract, Nat.min_eq_left (Nat.zero_le 1),
        Nat.max_eq_right (Nat.le_of_succ_le h), ByteArray.extract_zero_size]
    have hone : (bytes.extract 0 1).size = 1 := by
      rw [ByteArray.size_extract, Nat.min_eq_left (Nat.le_of_succ_le h)]
    refine ⟨_, _, hcut, fun hheld => ?_, fun hall => ?_⟩
    · rw [hempty, Except.ok.injEq] at hheld
      rw [hheld] at hone
      exact absurd hone (by decide)
    · rw [hall] at hone
      omega
  · refine ⟨.empty, bytes, ByteArray.empty_append, Ne.symm hempty, fun hall => ?_⟩
    rw [← hall] at h
    exact absurd h (by decide)

namespace FileStorage

variable {s : FileStorage} {name : String} {items : Items} {d d' : Directory}

-- The storage file is as it was before, and missing if it was, or it holds the whole text of some
-- items.
def OldOrNew (s : FileStorage) (items : Items) (d d' : Directory) : Prop :=
  d'.contents s.path.names = d.contents s.path.names ∨
    d'.contents s.path.names = .ok (Toml.render items).toUTF8

-- A step that takes a name is refused where the path is none of a file.
theorem takeName_refuses (h : s.path.isFilePath ≠ true) : ∃ f, s.takeName = .refuse f := by
  cases hfault : s.path.fault? with
  | some f => exact ⟨f, by rw [takeName, Directory.Step.under, hfault]⟩
  | none =>
      have hfolder : s.path.isFolderPath = true := by
        by_contra hfile
        exact h (FilePath.isFilePath_iff.mpr ⟨hfault, eq_false_of_ne_true hfile⟩)
      exact ⟨_, takeName_of_folder hfault hfolder⟩

-- Where a save stops: before anything has changed, with some of the text in the file that is
-- written first, or after that file has taken the name of the other.
theorem stops_save (h : d.Stops (s.saveSteps items) d') :
    d' = d ∨ s.scratch.fault? = none ∧ ∃ q, d.IsFilePlace s.scratchNames q ∧
      ((∃ front back, front ++ back = (Toml.render items).toUTF8 ∧
          d' = d.put q (.file front)) ∨
        d'.contents s.path.names = .ok (Toml.render items).toUTF8) := by
  by_cases htaken : s.scratch.fault? = none
  · rw [saveSteps_of_taken htaken] at h
    rcases Directory.stops_write h with hsame | ⟨q, hq, hamid | hlater⟩
    · exact Or.inl hsame
    · exact Or.inr ⟨htaken, q, hq, Or.inl hamid⟩
    · refine Or.inr ⟨htaken, q, hq, ?_⟩
      by_cases hpath : s.path.isFilePath = true
      · rw [takeName_of_file hpath] at hlater
        cases hlater with
        | between => exact Or.inl ⟨_, .empty, ByteArray.append_empty, rfl⟩
        | after htake hnone =>
            cases hnone
            have hfolders := Directory.foldersOf_put (.file (Toml.render items).toUTF8) hq.2
            have hplace := hfolders.locate hq.1
            exact Or.inr (Directory.contents_of_rename hplace
              (Directory.node?_put_self d _ hq.ne_nil) htake)
      · obtain ⟨f, hrefuses⟩ := takeName_refuses hpath
        rw [hrefuses] at hlater
        cases hlater with
        | between => exact Or.inl ⟨_, .empty, ByteArray.append_empty, rfl⟩
        | after htake => cases htake
  · obtain ⟨f, hfault⟩ := Option.ne_none_iff_exists'.mp htaken
    rw [saveSteps, makeScratch, Directory.Step.under, hfault] at h
    cases h with
    | between => exact Or.inl rfl
    | after hfirst => cases hfirst

-- The two files are in one folder, under names of their own.
theorem scratchNames_eq (hname : FilePath.fileName? s.path.names = some name) :
    ∃ front other, s.path.names = front ++ [name] ∧ s.scratchNames = front ++ [other] ∧
      (name ≠ ".." ∧ name ≠ ".") ∧ (other ≠ ".." ∧ other ≠ ".") ∧
      (other = name ↔ FilePath.extension? name = some "tmp") := by
  obtain ⟨front, hnames, hordinary⟩ := FilePath.fileName?_eq_some hname
  refine ⟨front, String.ofList (FilePath.stem name.toList) ++ "." ++ "tmp", hnames, ?_,
    ⟨fun hn => hordinary (Or.inl hn), fun hn => hordinary (Or.inr (Or.inr hn))⟩, ?_,
    FilePath.stem_append_eq_iff name "tmp"⟩
  · rw [scratchNames_eq_renamed, hnames, FilePath.renamed_append, FilePath.renamed,
      if_neg hordinary]
  · constructor <;> intro hother <;> have hlength := congrArg String.length hother <;>
      simp only [String.length_append] at hlength
    · have h : "..".length < "tmp".length := by decide
      omega
    · have h : ".".length < "tmp".length := by decide
      omega

theorem scratchNames_eq_names (hname : FilePath.fileName? s.path.names = some name)
    (hext : FilePath.extension? name = some "tmp") : s.scratchNames = s.path.names := by
  obtain ⟨front, other, hnames, hscratch, -, -, hsame⟩ := scratchNames_eq hname
  rw [hscratch, hnames, hsame.mpr hext]

-- Writing into the other file does not touch the storage file.
theorem contents_put_scratch (hname : FilePath.fileName? s.path.names = some name)
    (hext : FilePath.extension? name ≠ some "tmp") {q : List String}
    (hq : d.IsFilePlace s.scratchNames q) (bytes : ByteArray) :
    (d.put q (.file bytes)).contents s.path.names = d.contents s.path.names := by
  obtain ⟨front, other, hnames, hscratch, hordinary, hother, hsame⟩ := scratchNames_eq hname
  have hfolders := Directory.foldersOf_put (.file bytes) hq.2
  have hlocate := hq.1
  rw [hscratch] at hlocate
  obtain ⟨folder, hfront, hfolder⟩ := Directory.folder_of_locate hlocate
  rw [Directory.locate_concat hfront hfolder hother] at hlocate
  rw [hnames]
  have hbefore := Directory.locate_concat hfront hfolder hordinary
  have hafter :=
    Directory.locate_concat (hfolders.follow hfront) (hfolders folder hfolder) hordinary
  refine Directory.contents_congr (hafter.trans hbefore.symm) fun t ht => ?_
  refine Directory.node?_put_of_ne d _ fun htq => hext (hsame.mp ?_)
  rw [hbefore] at ht
  split_ifs at ht hlocate
  cases ht
  cases hlocate
  simpa using htq.symm

-- A storage file that is itself the one that is written first may be left with any front of the
-- text.
theorem exists_stop_not_oldOrNew {t : List String} (hscratch : s.scratchNames = s.path.names)
    (htaken : s.scratch.fault? = none) (ht : d.IsFilePlace s.path.names t) (hitems : items ≠ []) :
    ∃ d', d.Stops (s.saveSteps items) d' ∧ ¬ s.OldOrNew items d d' := by
  obtain ⟨front, back, hbytes, hold, hnew⟩ :=
    exists_front_ne (Toml.two_le_size_render hitems) (d.contents s.path.names)
  have hplace := (Directory.foldersOf_put (.file front) ht.2).locate ht.1
  have hheld := Directory.contents_of_file hplace (Directory.node?_put_self d _ ht.ne_nil)
  refine ⟨d.put t (.file front), ?_, ?_⟩
  · rw [saveSteps_of_taken htaken, hscratch]
    exact Directory.stops_front ht hbytes _
  · rw [OldOrNew, hheld, Except.ok.injEq, not_or]
    exact ⟨hold, hnew⟩

theorem stops_of_save (s : FileStorage) (items : Items) (d : Directory) :
    d.Stops (s.saveSteps items) (s.save items d).2 := by
  have hrun := Directory.stops_run d (s.saveSteps items)
  unfold save
  generalize d.run (s.saveSteps items) = left at hrun ⊢
  exact hrun

-- What the end of a save leaves is one of the things that may be left of it. All of them have the
-- old file or the whole new one, if the name of the file has another extension than the one of the
-- file that is written first. With that extension, it takes a table without entries, or a path
-- that the system does not take, or under which no file can be made.
theorem interrupted_save_iff (s : FileStorage) (name : String)
    (hname : FilePath.fileName? s.path.names = some name) (items : Items) (d : Directory) :
    d.Stops (s.saveSteps items) (s.save items d).2 ∧
    ((∀ d', d.Stops (s.saveSteps items) d' → s.OldOrNew items d d') ↔
      FilePath.extension? name ≠ some "tmp" ∨ items = [] ∨ s.scratch.fault? ≠ none ∨
        ∀ t, ¬ d.IsFilePlace s.path.names t) := by
  refine ⟨s.stops_of_save items d, fun hkept => ?_, fun hsafe d' hstop => ?_⟩
  · by_contra hunsafe
    push Not at hunsafe
    obtain ⟨hext, hitems, htaken, t, ht⟩ := hunsafe
    obtain ⟨d', hstop, hbroken⟩ :=
      exists_stop_not_oldOrNew (scratchNames_eq_names hname hext) htaken ht hitems
    exact hbroken (hkept d' hstop)
  · rcases stops_save hstop with rfl | ⟨htaken, q, hq, ⟨front, back, hbytes, rfl⟩ | hwhole⟩
    · exact Or.inl rfl
    · by_cases hext : FilePath.extension? name = some "tmp"
      · rw [scratchNames_eq_names hname hext] at hq
        rcases hsafe with hother | rfl | hrefused | hnowhere
        · exact absurd hext hother
        · have hplace := (Directory.foldersOf_put (.file front) hq.2).locate hq.1
          have hfront : front = .empty := by
            have hsize := congrArg ByteArray.size hbytes
            rw [ByteArray.size_append] at hsize
            exact ByteArray.size_eq_zero_iff.mp (Nat.eq_zero_of_add_eq_zero_right hsize)
          subst hfront
          exact Or.inr (Directory.contents_of_file hplace
            (Directory.node?_put_self d _ hq.ne_nil))
        · exact absurd htaken hrefused
        · exact absurd hq (hnowhere q)
      · exact Or.inl (contents_put_scratch hname hext hq front)
    · exact Or.inr hwhole

-- The usual name of the file is safe in every directory.
theorem interrupted_save_iff_toml :
    let s : FileStorage := ⟨⟨"state/session.toml"⟩⟩
    FilePath.fileName? s.path.names = some "session.toml" ∧
      FilePath.extension? "session.toml" ≠ some "tmp" ∧
      ∀ items d d', d.Stops (s.saveSteps items) d' → s.OldOrNew items d d' := by
  have hname : FilePath.fileName? (FilePath.names ⟨"state/session.toml"⟩) =
      some "session.toml" := by decide +kernel
  have hext : FilePath.extension? "session.toml" ≠ some "tmp" := by decide +kernel
  exact ⟨hname, hext, fun items d =>
    (interrupted_save_iff ⟨⟨"state/session.toml"⟩⟩ _ hname items d).2.mpr (Or.inl hext)⟩

-- A file with this extension, left with the first four bytes of the text.
theorem truncated_tmp :
    ¬ ∀ (s : FileStorage) (name : String) (items : Items) (d d' : Directory),
      FilePath.fileName? s.path.names = some name → d.Stops (s.saveSteps items) d' →
      s.OldOrNew items d d' := by
  intro hall
  let s : FileStorage := ⟨⟨"session.tmp"⟩⟩
  let items : Items := [("jwt_token", "abc")]
  let d : Directory := ⟨[(["session.tmp"], .file "jwt_token = \"old\"\n".toUTF8)]⟩
  have hname : FilePath.fileName? s.path.names = some "session.tmp" := by decide +kernel
  have hplace : d.IsFilePlace s.scratchNames ["session.tmp"] :=
    ⟨by decide +kernel, by decide +kernel⟩
  have htext : "jwt_".toUTF8 ++ "token = \"abc\"\n".toUTF8 = (Toml.render items).toUTF8 := by
    decide +kernel
  have htaken : s.scratch.fault? = none := by decide +kernel
  have hstop := Directory.stops_front hplace htext [s.takeName]
  rw [← saveSteps_of_taken htaken] at hstop
  have hleft : ¬ s.OldOrNew items d (d.put ["session.tmp"] (.file "jwt_".toUTF8)) := by
    unfold OldOrNew
    decide +kernel
  exact hleft (hall s _ items d _ hname hstop)

end FileStorage

end ProfileSession
