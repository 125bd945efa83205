import ProfileSession.Proofs.Storage.Save
import ProfileSession.Storage.Basic

namespace ProfileSession

def Node.isFolder : Node → Bool
  | .file _ => false
  | .folder => true

namespace Directory

-- At one place, both directories have a file, or a folder, or nothing; elsewhere they are the same.
structure AlikeBut (place : List String) (d d' : Directory) : Prop where
  kind : (d'.node? place).map Node.isFolder = (d.node? place).map Node.isFolder
  same : ∀ p, p ≠ place → d'.node? p = d.node? p

namespace AlikeBut

variable {place : List String} {d d' : Directory}

theorem symm (h : d.AlikeBut place d') : d'.AlikeBut place d :=
  ⟨h.kind.symm, fun p hp => (h.same p hp).symm⟩

theorem kind_eq (h : d.AlikeBut place d') (p : List String) :
    (d'.node? p).map Node.isFolder = (d.node? p).map Node.isFolder := by
  by_cases hp : p = place
  · rw [hp, h.kind]
  · rw [h.same p hp]

theorem foldersOf (h : d.AlikeBut place d') : d.FoldersOf d' := by
  intro q hq
  have hkind := h.kind_eq q
  rw [hq] at hkind
  cases hn : d'.node? q with
  | none =>
      rw [hn] at hkind
      cases hkind
  | some n =>
      cases n with
      | file bytes =>
          rw [hn] at hkind
          cases hkind
      | folder => rfl

theorem follow (h : d.AlikeBut place d') (p names : List String) :
    d'.follow p names = d.follow p names := by
  induction names generalizing p with
  | nil => rfl
  | cons name names ih =>
      have hkind := h.kind_eq p
      unfold Directory.follow
      cases hn : d.node? p with
      | none =>
          rw [hn] at hkind
          rw [Option.map_eq_none_iff.mp hkind]
      | some n =>
          rw [hn] at hkind
          obtain ⟨n', hn', hfolder⟩ := Option.map_eq_some_iff.mp hkind
          rw [hn']
          cases n with
          | file bytes =>
              cases n' with
              | file bytes' => rfl
              | folder => cases hfolder
          | folder =>
              cases n' with
              | file bytes' => cases hfolder
              | folder =>
                  dsimp only
                  rw [ih]

theorem locate (h : d.AlikeBut place d') (names : List String) :
    d'.locate names = d.locate names := by
  unfold Directory.locate
  rw [h.follow]

theorem isFilePlace (h : d.AlikeBut place d') {names p : List String}
    (hp : d.IsFilePlace names p) : d'.IsFilePlace names p :=
  ⟨(h.locate names).trans hp.1, fun hfolder => hp.2 (h.symm.foldersOf p hfolder)⟩

theorem stat (h : d.AlikeBut place d') {names : List String} (hplace : d.locate names ≠ .ok place) :
    d'.stat names = d.stat names := by
  unfold Directory.stat
  rw [h.locate]
  cases hlocate : d.locate names with
  | error f => rfl
  | ok p =>
      have hp : p ≠ place := fun heq => hplace (heq ▸ hlocate)
      simp only [bind, Except.bind, h.same p hp]

-- A change that makes both the same at some places, and leaves them as they are at all others.
theorem of_changes {e e' : Directory} (h : d.AlikeBut place d')
    (hp : ∀ p, e'.node? p = e.node? p ∨ e.node? p = d.node? p ∧ e'.node? p = d'.node? p) :
    e.AlikeBut place e' := by
  constructor
  · rcases hp place with hsame | ⟨hleft, hright⟩
    · rw [hsame]
    · rw [hleft, hright, h.kind]
  · intro p hne
    rcases hp p with hsame | ⟨hleft, hright⟩
    · exact hsame
    · rw [hleft, hright, h.same p hne]

-- A file is written at one place in both, perhaps after it was at another.
theorem of_written {e e' : Directory} {q t : List String} (h : d.AlikeBut place d')
    (htarget : e'.node? t = e.node? t) (hscratch : q ≠ t → e'.node? q = e.node? q)
    (hother : ∀ p, p ≠ q → p ≠ t → e.node? p = d.node? p)
    (hother' : ∀ p, p ≠ q → p ≠ t → e'.node? p = d'.node? p) : e.AlikeBut place e' := by
  refine h.of_changes fun p => ?_
  by_cases hpt : p = t
  · exact Or.inl (hpt ▸ htarget)
  · by_cases hpq : p = q
    · exact Or.inl (by rw [hpq, hscratch fun heq => hpt (hpq.trans heq)])
    · exact Or.inr ⟨hother p hpq hpt, hother' p hpq hpt⟩

end AlikeBut

end Directory

namespace FileStorage

variable {s : FileStorage} {place : List String} {d d' e e' : Directory} {items : Items}
  {r r' : Except Error Unit}

theorem load_alike (h : d.AlikeBut place d') (hplace : d.locate s.path.names ≠ .ok place) :
    s.load d' = s.load d := by
  unfold load readText Directory.look
  rw [h.stat hplace]

-- A save never makes a folder.
theorem Saves.foldersOf_back (h : s.Saves items d r e) : e.FoldersOf d := by
  intro q hq
  cases h with
  | unplaced hfirst => exact hq
  | @refused p _ hpath htaken hp hfile hother =>
      have hne : q ≠ p := by
        rintro rfl
        rw [hfile] at hq
        cases hq
      exact (hother q hne).symm.trans hq
  | @replaced p t _ hpath htaken hp ht hfile hgone hother =>
      have htarget : q ≠ t := by
        rintro rfl
        rw [hfile] at hq
        cases hq
      have hscratch : q ≠ p := by
        rintro rfl
        rw [hgone htarget] at hq
        cases hq
      exact (hother q hscratch htarget).symm.trans hq

-- The first step of a save finds a place for its file.
theorem not_step_error_of_isFilePlace {q : List String} {f : SystemFault}
    (htaken : s.scratch.fault? = none) (hq : d.IsFilePlace s.scratchNames q) :
    d.step s.makeScratch ≠ .error f := by
  rw [makeScratch_of_taken htaken, Directory.step_truncate hq]
  intro hstep
  cases hstep

-- What this step needs is there in both directories or in none.
theorem step_truncate_alike (h : d.AlikeBut place d') {names : List String} {f : SystemFault}
    (hstep : d.step (.truncate names) = .error f) : d'.step (.truncate names) = .error f := by
  simp only [Directory.step, h.locate, bind, Except.bind] at hstep ⊢
  cases hlocate : d.locate names with
  | error g =>
      rw [hlocate] at hstep
      exact hstep
  | ok p =>
      rw [hlocate] at hstep
      dsimp only at hstep ⊢
      cases hn : d.node? p with
      | none =>
          rw [hn] at hstep
          cases hstep
      | some n =>
          cases n with
          | file bytes =>
              rw [hn] at hstep
              cases hstep
          | folder =>
              rw [hn] at hstep
              rw [h.foldersOf p hn]
              exact hstep

theorem makeScratch_alike (h : d.AlikeBut place d') {f : SystemFault}
    (hstep : d.step s.makeScratch = .error f) : d'.step s.makeScratch = .error f := by
  unfold makeScratch Directory.Step.under at hstep ⊢
  cases hfault : s.scratch.fault? with
  | some g =>
      rw [hfault] at hstep
      exact hstep
  | none =>
      rw [hfault] at hstep
      exact step_truncate_alike h hstep

theorem Saves.alike (h : d.AlikeBut place d') (hs : s.Saves items d r e)
    (hs' : s.Saves items d' r' e') : r' = r ∧ e.AlikeBut place e' := by
  cases hs with
  | unplaced hfirst =>
      have hfirst' := makeScratch_alike h hfirst
      cases hs' with
      | unplaced hother =>
          rw [hfirst'] at hother
          cases hother
          exact ⟨rfl, h⟩
      | refused hpath htaken hq hfile hother =>
          exact absurd hfirst' (not_step_error_of_isFilePlace htaken hq)
      | replaced hpath htaken hq ht hfile hgone hother =>
          exact absurd hfirst' (not_step_error_of_isFilePlace htaken hq)
  | @refused q _ hpath htaken hq hfile hother =>
      have hq' := h.isFilePlace hq
      cases hs' with
      | unplaced hfirst => exact absurd hfirst (not_step_error_of_isFilePlace htaken hq')
      | replaced hpath' htaken' hp ht hfile hgone hother =>
          exact absurd hpath (ne_true_of_eq_false (FilePath.isFilePath_iff.mp hpath').2)
      | @refused q' _ hpath' htaken' hp hfile' hother' =>
          have hsame : q' = q := Except.ok.inj (hp.1.symm.trans hq'.1)
          subst hsame
          have hwritten := hfile'.trans hfile.symm
          exact ⟨rfl, h.of_written hwritten (fun _ => hwritten) (fun p hp _ => hother p hp)
            fun p hp _ => hother' p hp⟩
  | @replaced q t _ hpath htaken hq ht hfile hgone hother =>
      have hq' := h.isFilePlace hq
      cases hs' with
      | unplaced hfirst => exact absurd hfirst (not_step_error_of_isFilePlace htaken hq')
      | refused hpath' htaken' hp hfile hother =>
          exact absurd hpath' (ne_true_of_eq_false (FilePath.isFilePath_iff.mp hpath).2)
      | @replaced q' t' _ hpath' htaken' hp ht' hfile' hgone' hother' =>
          have hscratch : q' = q := Except.ok.inj (hp.1.symm.trans hq'.1)
          have htarget : t' = t := Except.ok.inj (ht'.1.symm.trans (h.isFilePlace ht).1)
          subst hscratch htarget
          exact ⟨rfl, h.of_written (hfile'.trans hfile.symm)
            (fun hne => (hgone' hne).trans (hgone hne).symm) hother hother'⟩

-- A change of a file comes to the same in both directories, and the file stays another one.
theorem update_alike (h : d.AlikeBut place d') (hplace : d.locate s.path.names ≠ .ok place)
    (change : Items → Items) :
    (s.update change d').1 = (s.update change d).1 ∧
      (s.update change d).2.AlikeBut place (s.update change d').2 ∧
      (s.update change d).2.locate s.path.names ≠ .ok place := by
  have hload := load_alike h hplace
  rcases update_cases (Prod.mk.eta (p := s.update change d)).symm with
    ⟨x, hx, hr, hd⟩ | ⟨items, hitems, hsaves⟩
  · rcases update_cases (Prod.mk.eta (p := s.update change d')).symm with
      ⟨x', hx', hr', hd'⟩ | ⟨items', hitems', -⟩
    · rw [hload, hx] at hx'
      cases hx'
      rw [hr, hr', hd, hd']
      exact ⟨rfl, h, hplace⟩
    · rw [hload, hx] at hitems'
      cases hitems'
  · rcases update_cases (Prod.mk.eta (p := s.update change d')).symm with
      ⟨x', hx', -, -⟩ | ⟨items', hitems', hsaves'⟩
    · rw [hload, hitems] at hx'
      cases hx'
    · rw [hload, hitems] at hitems'
      cases hitems'
      obtain ⟨hr, halike⟩ := hsaves.alike h hsaves'
      exact ⟨hr, halike, fun hlocate => hplace (hsaves.foldersOf_back.locate hlocate)⟩

end FileStorage

-- Two storages of one file, in directories that differ in what another file holds.
inductive Storage.Aside (path : FilePath) (place : List String) : Storage → Storage → Prop
  | mk (refusesSet refusesRemove : Option Error) {d d' : Directory} (h : d.AlikeBut place d')
      (hplace : d.locate path.names ≠ .ok place) :
      Aside path place ⟨.file ⟨path⟩ d, refusesSet, refusesRemove⟩
        ⟨.file ⟨path⟩ d', refusesSet, refusesRemove⟩

end ProfileSession
