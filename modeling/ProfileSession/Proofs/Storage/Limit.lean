import Mathlib.Data.List.Flatten
import ProfileSession.Proofs.Storage.Save

namespace ProfileSession

namespace Toml

open String (utf8Len)

-- Only characters of one byte have an escape, and every escape has more.
theorem utf8Size_le_escape (lines : Bool) (c : Char) :
    c.utf8Size ≤ utf8Len ((escape? lines c).getD [c]) := by
  cases hescape : escape? lines c with
  | none => simp
  | some u =>
      have hsmall : c.utf8Size = 1 := by
        rw [Char.utf8Size_eq_one_iff]
        unfold escape? at hescape
        split_ifs at hescape with h1 h2 h3 hl h4 h5 h6 h7
        rotate_right
        · have hle : c.toNat ≤ 127 := by omega
          exact hle
        all_goals
          subst_vars
          decide
      obtain ⟨e, es, rfl, -⟩ := escape?_eq_some hescape
      have hpos := Char.utf8Size_pos '\\'
      simp only [Option.getD_some, String.utf8Len_cons, hsmall]
      omega

theorem utf8Len_le_body (lines : Bool) (limit run : Nat) (cs : List Char) :
    utf8Len cs ≤ utf8Len (body lines limit run cs) := by
  induction cs generalizing run with
  | nil => exact Nat.le_refl _
  | cons c cs ih =>
      by_cases hquote : c = '"'
      · have hplain := ih (run + 1)
        have hescaped := ih 0
        simp only [body, hquote, ite_true]
        split_ifs <;> simp only [String.utf8Len_cons] <;> omega
      · have hrest := ih 0
        have hescape := utf8Size_le_escape lines c
        simp only [body, hquote, ite_false, String.utf8Len_append, String.utf8Len_cons]
        omega

-- No form of a text is shorter than the text.
theorem utf8Len_le_valueText (cs : List Char) : utf8Len cs ≤ utf8Len (valueText cs) := by
  have hbasic : utf8Len cs ≤ utf8Len (basicForm cs) := by
    have hbody := utf8Len_le_body false 0 0 cs
    rw [basicForm, escaped_eq_body, List.cons_append, String.utf8Len_cons, String.utf8Len_append]
    omega
  have hliteral : utf8Len cs ≤ utf8Len (literalForm cs) :=
    String.utf8Len_le_of_infix ⟨['\''], ['\''], rfl⟩
  have hbasicLines : utf8Len cs ≤ utf8Len (basicLinesForm cs) := by
    have hbody := utf8Len_le_body true 2 0 cs
    rw [basicLinesForm, escaped_eq_body, String.utf8Len_append, String.utf8Len_append]
    omega
  have hliteralLines : utf8Len cs ≤ utf8Len (literalLinesForm cs) :=
    String.utf8Len_le_of_infix ⟨threeApostrophes ++ opening cs, threeApostrophes, rfl⟩
  unfold valueText
  dsimp only
  split_ifs <;> assumption

-- A table is at least as long as each of its texts.
theorem utf8ByteSize_le_render {es : List (String × String)} {e : String × String} (h : e ∈ es) :
    e.2.utf8ByteSize ≤ (render es).utf8ByteSize := by
  have hvalue : valueText e.2.toList <:+: entryText e :=
    ⟨keyText e.1.toList ++ [' ', '=', ' '], ['\n'], by simp [entryText]⟩
  have hentry : (entryText e).Sublist (es.flatMap entryText) :=
    List.sublist_flatten_of_mem (List.mem_map_of_mem h)
  calc e.2.utf8ByteSize = utf8Len e.2.toList := by
        rw [← String.utf8ByteSize_ofList, String.ofList_toList]
    _ ≤ utf8Len (valueText e.2.toList) := utf8Len_le_valueText _
    _ ≤ utf8Len (entryText e) := String.utf8Len_le_of_infix hvalue
    _ ≤ utf8Len (es.flatMap entryText) := String.utf8Len_le_of_sublist hentry
    _ = (render es).utf8ByteSize := (String.utf8ByteSize_ofList _).symm

-- A table gets no longer when entries are taken away.
theorem utf8ByteSize_render_filter (keep : String × String → Bool) (es : List (String × String)) :
    (render (es.filter keep)).utf8ByteSize ≤ (render es).utf8ByteSize := by
  rw [render, render, String.utf8ByteSize_ofList, String.utf8ByteSize_ofList]
  exact String.utf8Len_le_of_sublist (List.filter_sublist.flatMap entryText)

end Toml

namespace FileStorage

-- The file holds some items, and is as good as before: they are read, and each can be removed.
structure Holds (s : FileStorage) (items : Items) (d : Directory) : Prop where
  load : s.load d = .ok items
  get (key : String) : s.getItem key d = items.get? key
  remove (key : String) :
    ∃ d', s.removeItem key d = (.ok (), d') ∧ s.load d' = .ok (items.erase key)

-- The file has become too large for all that can be done with it: nothing is read, and nothing is
-- changed any more.
structure Unusable (s : FileStorage) (size : Nat) (d : Directory) : Prop where
  load : s.load d = .error (tooLarge s.path size)
  get (key : String) : s.getItem key d = none
  set (key value : String) : s.setItem key value d = (.error (tooLarge s.path size), d)
  remove (key : String) : s.removeItem key d = (.error (tooLarge s.path size), d)

section Written

variable {s : FileStorage} {d : Directory} {items : Items}

-- A change that leaves a text within the limit is made, and is read again.
theorem update_within (change : Items → Items) (hwritable : s.Writable d)
    (hload : s.load d = .ok items) (hsorted : (change items).Sorted)
    (hsize : (Toml.render (change items)).utf8ByteSize ≤ sizeLimit) :
    ∃ d', s.update change d = (.ok (), d') ∧ s.Writable d' ∧ s.load d' = .ok (change items) := by
  obtain ⟨d', hsave, hsaves⟩ := hwritable.saves (change items)
  obtain ⟨hagain, -, hloads⟩ := hsaves.left
  exact ⟨d', by simp only [update, hload, hsave], hagain, hloads hsize hsorted⟩

-- What is left by a save is good for as long as it is small enough to be read.
theorem holds_of_written (hwritable : s.Writable d) (hsorted : items.Sorted)
    (hload : s.load d = .ok items)
    (hsize : (Toml.render items).utf8ByteSize ≤ sizeLimit) : s.Holds items d where
  load := hload
  get key := by
    unfold getItem
    rw [hload]
  remove key := by
    have hsmaller : (Toml.render (items.erase key)).utf8ByteSize ≤ sizeLimit :=
      (Toml.utf8ByteSize_render_filter _ items).trans hsize
    obtain ⟨d', hupdate, -, hloads⟩ :=
      update_within (Items.erase key) hwritable hload (hsorted.erase key) hsmaller
    exact ⟨d', hupdate, hloads⟩

theorem unusable_of_contents {bytes : ByteArray} (hpath : s.path.isFilePath = true)
    (hcontents : d.contents s.path.names = .ok bytes) (hsize : sizeLimit < bytes.size) :
    s.Unusable bytes.size d := by
  have hstat : d.stat s.path.names = .ok (.file bytes) := by
    unfold Directory.contents at hcontents
    cases hnode : d.stat s.path.names with
    | error f =>
        rw [hnode] at hcontents
        cases hcontents
    | ok n =>
        rw [hnode] at hcontents
        cases n with
        | folder => cases hcontents
        | file found =>
            cases hcontents
            rfl
  obtain ⟨htaken, hfolder⟩ := FilePath.isFilePath_iff.mp hpath
  have hlook : d.look s.path = .ok (.file bytes) := by
    rw [Directory.look_of_taken htaken, hstat]
  have hload : s.load d = .error (tooLarge s.path bytes.size) := by
    simp only [load, hlook, readText, hfolder, hsize, Bool.false_eq_true, ite_false, ite_true, bind,
      Except.bind]
  refine ⟨hload, fun key => ?_, fun key value => ?_, fun key => ?_⟩
  · unfold getItem
    rw [hload]
  · simp only [setItem, update, hload]
  · simp only [removeItem, update, hload]

end Written

-- A change that fails leaves all that can be read, and changes no file but the one that is written
-- first, and not even that one unless the path is only that of a folder.
structure Fails (s : FileStorage) (d : Directory) (d' : Directory) : Prop where
  same : s.path.isFolderPath = false → d' = d
  others (place : List String) :
    d.locate s.scratchNames ≠ .ok place → d'.node? place = d.node? place
  get (key : String) : s.getItem key d' = s.getItem key d

theorem Saves.fails {s : FileStorage} {d d' : Directory} {items : Items} {e : Error}
    (h : s.Saves items d (.error e) d') : s.Fails d d' := by
  cases h with
  | unplaced hfirst => exact ⟨fun _ => rfl, fun _ _ => rfl, fun _ => rfl⟩
  | refused hpath htaken hq hfile hother =>
      refine ⟨fun hfilePath => ?_, fun place hplace => hother place ?_, fun key => ?_⟩
      · rw [hpath] at hfilePath
        cases hfilePath
      · rintro rfl
        exact hplace hq.1
      · rw [getItem_of_folderPath hpath, getItem_of_folderPath hpath]

-- A value is set, or the storage stays as it was. The file then holds the value with all others if
-- its text is within the limit of size, and else is of no use any more.
theorem setItem_outcome (s : FileStorage) (d d' : Directory) (items : Items) (key value : String)
    (r : Except Error Unit) (hload : s.load d = .ok items)
    (hset : s.setItem key value d = (r, d')) :
    let more := items.insert key value
    (∃ e, r = .error e ∧ s.Fails d d') ∨
    (r = .ok () ∧ d'.contents s.path.names = .ok (Toml.render more).toUTF8 ∧
      (∀ other, more.get? other = if other = key then some value else items.get? other) ∧
      if (Toml.render more).utf8ByteSize ≤ sizeLimit then s.Holds more d'
      else s.Unusable (Toml.render more).utf8ByteSize d') := by
  intro more
  have hsaves := save_saves hload more
  have hsave : s.save more d = (r, d') := by
    rw [← hset]
    simp only [setItem, update, hload, more]
  rw [hsave] at hsaves
  cases r with
  | error e => exact Or.inl ⟨e, rfl, hsaves.fails⟩
  | ok u =>
      obtain ⟨hwritable, hcontents, hloads⟩ := hsaves.left
      have hsorted := (sorted_of_load hload).insert key value
      refine Or.inr ⟨rfl, hcontents, fun other => Items.get?_insert key other value items, ?_⟩
      split_ifs with hsize
      · exact holds_of_written hwritable hsorted (hloads hsize hsorted) hsize
      · exact unusable_of_contents hwritable.path hcontents (Nat.lt_of_not_le hsize)

-- Quotes, apostrophes and line breaks next to a text that was there before.
theorem setItem_outcome_quotes :
    let s : FileStorage := ⟨⟨"session.toml"⟩⟩
    let d : Directory := ⟨[(["session.toml"], .file "a = 'x'\n".toUTF8)]⟩
    let d' := (s.setItem "jwt_token" "it's \"\"\"\n" d).2
    s.Holds [("a", "x"), ("jwt_token", "it's \"\"\"\n")] d' := by
  intro s d d'
  have hload : s.load d = .ok [("a", "x")] := by decide +kernel
  have hset : s.setItem "jwt_token" "it's \"\"\"\n" d = (.ok (), d') :=
    Prod.ext (by decide +kernel) rfl
  rcases setItem_outcome s d d' _ _ _ _ hload hset with ⟨e, he, -⟩ | ⟨-, -, -, hholds⟩
  · cases he
  · rwa [if_pos (by decide +kernel)] at hholds

-- A value that is larger than the limit is set, and then neither it nor any other is read.
theorem setItem_large {s : FileStorage} {d : Directory} {items : Items} {key value : String}
    (h : s.Writable d) (hload : s.load d = .ok items) (hvalue : sizeLimit < value.utf8ByteSize) :
    ∃ d' size, s.setItem key value d = (.ok (), d') ∧ s.Unusable size d' := by
  obtain ⟨d', hsave, hsaves⟩ := h.saves (items.insert key value)
  obtain ⟨hwritable, hcontents, -⟩ := hsaves.left
  have hsize : sizeLimit < (Toml.render (items.insert key value)).utf8ByteSize :=
    hvalue.trans_le (Toml.utf8ByteSize_le_render (Items.mem_insert_self key value items))
  refine ⟨d', _, ?_, unusable_of_contents hwritable.path hcontents hsize⟩
  simp only [setItem, update, hload, hsave]

-- A storage in a folder without any file, and a value of one byte more than the limit.
theorem set_and_lost :
    ¬ ∀ (s : FileStorage) (d d' : Directory) (items : Items) (key value : String)
      (r : Except Error Unit), s.load d = .ok items → s.setItem key value d = (r, d') →
      (∃ e, r = .error e ∧ d'.contents s.path.names = d.contents s.path.names) ∨
      (r = .ok () ∧ (∃ held, s.load d' = .ok held) ∧ s.getItem key d' = some value ∧
        ∃ d'', s.removeItem key d' = (.ok (), d'')) := by
  intro hall
  let s : FileStorage := ⟨⟨"session.toml"⟩⟩
  have hfile : s.NamesFile {} :=
    ⟨by decide +kernel, ["session.toml"], by decide +kernel, by decide +kernel⟩
  have hwritable := hfile.writable ⟨by decide +kernel, by decide +kernel, by decide +kernel⟩
  have hload : s.load {} = .ok [] := by decide +kernel
  have hvalue : sizeLimit < (String.ofList (List.replicate 65537 'x')).utf8ByteSize := by
    rw [utf8ByteSize_replicate]
    decide
  obtain ⟨d', size, hset, hunusable⟩ := @setItem_large s {} [] "k" _ hwritable hload hvalue
  rcases hall s {} d' [] "k" _ _ hload hset with ⟨e, he, -⟩ | ⟨-, ⟨held, hheld⟩, -⟩
  · cases he
  · rw [hunusable.load] at hheld
    cases hheld

end FileStorage

end ProfileSession
