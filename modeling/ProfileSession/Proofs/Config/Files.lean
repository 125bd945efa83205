import ProfileSession.Proofs.Config.Layers
import ProfileSession.Proofs.Config.Settings
import ProfileSession.Proofs.Storage.Save

namespace ProfileSession

namespace FileStorage

theorem toUTF8_of_fromUTF8? {bytes : ByteArray} {text : String}
    (h : String.fromUTF8? bytes = some text) : text.toUTF8 = bytes := by
  unfold String.fromUTF8? at h
  split_ifs at h
  cases h
  rfl

-- What is read of a file that the system finds under the path.
theorem readText_of_file {d : Directory} {path : FilePath} {limit : Nat} {bytes : ByteArray}
    {text : String} (h : d.look path = .ok (.file bytes)) :
    readText d path limit = .ok text ↔
      path.isFolderPath = false ∧ bytes = text.toUTF8 ∧ text.utf8ByteSize ≤ limit := by
  rw [readText, h]
  dsimp only
  constructor
  · intro hread
    split_ifs at hread with hpath hsize
    split at hread
    · rename_i htext
      cases hread
      obtain rfl := toUTF8_of_fromUTF8? htext
      exact ⟨eq_false_of_ne_true hpath, rfl, Nat.le_of_not_lt hsize⟩
    · cases hread
  · rintro ⟨hpath, rfl, hsize⟩
    have hfits : ¬limit < text.toUTF8.size := Nat.not_lt.mpr hsize
    rw [if_neg (ne_true_of_eq_false hpath), if_neg hfits, fromUTF8?_toUTF8]

theorem readText_eq_ok {d : Directory} {path : FilePath} {limit : Nat} {text : String} :
    readText d path limit = .ok text ↔ path.isFilePath = true ∧
      d.contents path.names = .ok text.toUTF8 ∧ text.utf8ByteSize ≤ limit := by
  rw [FilePath.isFilePath_iff, and_assoc]
  cases hfault : path.fault? with
  | some f => simp [readText, Directory.look, hfault]
  | none =>
      have hlook : d.look path = d.stat path.names := Directory.look_of_taken hfault
      cases hstat : d.stat path.names with
      | error f => simp [readText, hlook, Directory.contents, hstat, bind, Except.bind]
      | ok n =>
          cases n with
          | folder => simp [readText, hlook, Directory.contents, hstat, bind, Except.bind]
          | file bytes =>
              have hcontents : d.contents path.names = .ok bytes := by
                rw [Directory.contents, hstat]
                rfl
              simp [readText_of_file (hlook.trans hstat), hcontents]

-- A file that is there and cannot be read is too large, or is no text.
theorem kind_of_readText {d : Directory} {path : FilePath} {limit : Nat} {bytes : ByteArray}
    {e : Error} (hpath : path.isFilePath = true) (hcontents : d.contents path.names = .ok bytes)
    (h : readText d path limit = .error e) : e.kind = .invalidArgument := by
  unfold Directory.contents at hcontents
  obtain ⟨n, hstat, hcontents⟩ := bind_eq_ok.mp hcontents
  cases n with
  | folder => cases hcontents
  | file bytes =>
      obtain ⟨htaken, hfolder⟩ := FilePath.isFilePath_iff.mp hpath
      rw [readText, Directory.look_of_taken htaken, hstat] at h
      dsimp only at h
      rw [if_neg (ne_true_of_eq_false hfolder)] at h
      split_ifs at h
      · cases h
        rfl
      · split at h
        · cases h
        · cases h
          rfl

end FileStorage

namespace Config

-- A file that can be read, within the limit, as a table of some texts.
def IsTable (d : Directory) (path : FilePath) (es : List (String × String)) : Prop :=
  ∃ text : String, path.isFilePath = true ∧ d.contents path.names = .ok text.toUTF8 ∧
    text.utf8ByteSize ≤ fileSizeLimit ∧ Toml.readTexts text = .ok es

-- Bytes that no file of settings consists of.
inductive Unfit (bytes : ByteArray) : Prop where
  | large (hsize : fileSizeLimit < bytes.size)
  | unknown {text : String} {es : Toml.Entries} {e : Toml.Key × Toml.Item}
      (htext : text.toUTF8 = bytes) (hread : Toml.read text = .ok es) (he : e ∈ es)
      (hname : e.1.name ∉ Overrides.known)
  | mistyped {text : String} {es : Toml.Entries} {e : Toml.Key × Toml.Item}
      (htext : text.toUTF8 = bytes) (hread : Toml.read text = .ok es) (he : e ∈ es)
      (hitem : ∀ s span, e.2 ≠ .scalar (.text s) span)

-- A configuration with what the entries of a file say. All entries are of settings. A setting that
-- is given has the value that its text stands for, and all else is as it was.
structure Merged (c : Config) (es : List (String × String)) (c' : Config) : Prop where
  known : ∀ e ∈ es, e.1 ∈ Overrides.known
  given (f : Setting) (s : String) : (f.name, s) ∈ es → f.ofText? s = some (c'.get f)
  kept (f : Setting) : f.name ∉ es.map Prod.fst → c'.get f = c.get f
  beyond : c'.beyond = c.beyond

-- The entries of one table, and those of another that the first does not give.
def Over (bs as es : List (String × String)) : Prop :=
  ∀ e, e ∈ es ↔ e ∈ bs ∨ (e ∈ as ∧ e.1 ∉ bs.map Prod.fst)

section Tables

variable {as bs es : List (String × String)}

theorem Over.mem_names (h : Over bs as es) {name : String} :
    name ∈ es.map Prod.fst ↔ name ∈ bs.map Prod.fst ∨ name ∈ as.map Prod.fst := by
  constructor
  · intro hname
    obtain ⟨e, he, rfl⟩ := List.mem_map.mp hname
    rcases (h e).mp he with hb | ⟨ha, -⟩
    · exact Or.inl (List.mem_map_of_mem hb)
    · exact Or.inr (List.mem_map_of_mem ha)
  · intro hname
    by_cases hb : name ∈ bs.map Prod.fst
    · obtain ⟨e, he, rfl⟩ := List.mem_map.mp hb
      exact List.mem_map_of_mem ((h e).mpr (Or.inl he))
    · obtain ⟨e, he, rfl⟩ := List.mem_map.mp (hname.resolve_left hb)
      exact List.mem_map_of_mem ((h e).mpr (Or.inr ⟨he, hb⟩))

-- Tables of different names lie beside each other.
theorem Over.of_disjoint (h : (as.map Prod.fst).Disjoint (bs.map Prod.fst))
    (hover : Over bs as es) :
    Over as bs es := by
  intro e
  rw [hover e]
  constructor
  · rintro (hb | ⟨ha, -⟩)
    · exact Or.inr ⟨hb, fun ha => h ha (List.mem_map_of_mem hb)⟩
    · exact Or.inl ha
  · rintro (ha | ⟨hb, -⟩)
    · exact Or.inr ⟨ha, fun hb => h (List.mem_map_of_mem ha) hb⟩
    · exact Or.inl hb

-- There is a text with the entries of two tables.
theorem exists_over (has : (as.map Prod.fst).Nodup) (hbs : (bs.map Prod.fst).Nodup) :
    ∃ text es, Over bs as es ∧ Toml.readTexts text = .ok es := by
  let rest := as.filter fun e => decide (e.1 ∉ bs.map Prod.fst)
  have hrest : (rest.map Prod.fst).Nodup := (List.filter_sublist.map _).nodup has
  have hnodup : ((bs ++ rest).map Prod.fst).Nodup := by
    rw [List.map_append]
    refine List.nodup_append.mpr ⟨hbs, hrest, ?_⟩
    rintro name hb _ hr rfl
    obtain ⟨e, he, rfl⟩ := List.mem_map.mp hr
    exact of_decide_eq_true (List.mem_filter.mp he).2 hb
  refine ⟨Toml.render (bs ++ rest), bs ++ rest, fun e => ?_,
    Toml.readTexts_render_entries _ hnodup⟩
  rw [List.mem_append, List.mem_filter, decide_eq_true_iff]

end Tables

section Merging

variable {c c' c₁ c₂ : Config} {as bs es : List (String × String)}

-- A setting is given, or it is kept.
theorem merged_override {o : Overrides} (hnodup : (es.map Prod.fst).Nodup)
    (hsets : Overrides.Sets es {} o) : c.Merged es (c.override o) where
  known := hsets.mem_known
  given f s hf := by
    obtain ⟨hsome, hget⟩ := hsets.get_of_mem hnodup hf
    obtain ⟨v, hv⟩ := Option.isSome_iff_exists.mp hsome
    rw [get_override, ← hget, hv]
    rfl
  kept f hf := by
    rw [get_override, hsets.get_of_notMem hf]
    cases f <;> rfl
  beyond := rfl

-- The entries alone tell what becomes of a configuration.
theorem Merged.unique (h : c.Merged es c₁) (h' : c.Merged es c₂) : c₂ = c₁ := by
  refine eq_of_get (h'.beyond.trans h.beyond.symm) fun f => ?_
  by_cases hf : f.name ∈ es.map Prod.fst
  · obtain ⟨⟨name, s⟩, he, rfl⟩ := List.mem_map.mp hf
    exact Option.some.inj ((h'.given f s he).symm.trans (h.given f s he))
  · rw [h.kept f hf, h'.kept f hf]

theorem merged_iff (hnodup : (es.map Prod.fst).Nodup) :
    c.Merged es c' ↔ ∃ o, Overrides.Sets es {} o ∧ c.override o = c' := by
  constructor
  · intro h
    have hread : ∀ p ∈ es, ∃ f : Setting, f.name = p.1 ∧ (f.ofText? p.2).isSome := by
      rintro ⟨name, s⟩ hp
      obtain ⟨f, rfl⟩ := Setting.mem_known.mp (h.known _ hp)
      exact ⟨f, rfl, Option.isSome_iff_exists.mpr ⟨_, h.given f s hp⟩⟩
    obtain ⟨o, hsets⟩ := Overrides.exists_sets {} hread
    exact ⟨o, hsets, h.unique (merged_override hnodup hsets)⟩
  · rintro ⟨o, hsets, rfl⟩
    exact merged_override hnodup hsets

-- A second file is merged into what the first has made.
theorem Merged.trans (h : c.Merged as c₁) (h' : c₁.Merged bs c₂) (hover : Over bs as es) :
    c.Merged es c₂ where
  known e he := by
    rcases (hover e).mp he with hb | ⟨ha, -⟩
    · exact h'.known e hb
    · exact h.known e ha
  given f s hf := by
    rcases (hover _).mp hf with hb | ⟨ha, hb⟩
    · exact h'.given f s hb
    · rw [h.given f s ha, h'.kept f hb]
  kept f hf := by
    rw [hover.mem_names, not_or] at hf
    rw [h'.kept f hf.1, h.kept f hf.2]
  beyond := h'.beyond.trans h.beyond

theorem Merged.again (h : c.Merged es c') : c'.Merged es c' where
  known := h.known
  given := h.given
  kept _ _ := rfl
  beyond := rfl

end Merging

section Files

variable {c c' : Config} {d : Directory} {path : FilePath}

theorem ofFile_eq_ok {o : Overrides} : Overrides.ofFile d path = .ok o ↔
    ∃ es, IsTable d path es ∧ Overrides.Sets es {} o := by
  have hread (text : String) : (Overrides.read text).mapError Error.ofToml = .ok o ↔
      Overrides.read text = .ok o := by
    cases Overrides.read text <;> simp [Except.mapError]
  unfold Overrides.ofFile IsTable
  simp only [bind_eq_ok, hread, FileStorage.readText_eq_ok, Overrides.read_eq_ok]
  constructor
  · rintro ⟨text, ⟨hpath, hcontents, hsize⟩, es, htexts, hsets⟩
    exact ⟨es, ⟨text, hpath, hcontents, hsize, htexts⟩, hsets⟩
  · rintro ⟨es, ⟨text, hpath, hcontents, hsize, htexts⟩, hsets⟩
    exact ⟨text, ⟨hpath, hcontents, hsize⟩, es, htexts, hsets⟩

theorem IsTable.nodup {es : List (String × String)} (h : IsTable d path es) :
    (es.map Prod.fst).Nodup := by
  obtain ⟨text, -, -, -, htexts⟩ := h
  exact Toml.nodup_readTexts htexts

-- A file holds one table.
theorem IsTable.unique {as bs : List (String × String)} (h : IsTable d path as)
    (h' : IsTable d path bs) : bs = as := by
  obtain ⟨text, -, hcontents, -, htexts⟩ := h
  obtain ⟨text', -, hcontents', -, htexts'⟩ := h'
  have hsame : text' = text :=
    String.toByteArray_inj.mp (Except.ok.inj (hcontents'.symm.trans hcontents))
  rw [hsame, htexts] at htexts'
  exact (Except.ok.inj htexts').symm

theorem mergeFile_eq_ok : c.mergeFile d path = .ok c' ↔
    ∃ es, IsTable d path es ∧ c.Merged es c' ∧ c'.validate = .ok () := by
  constructor
  · intro h
    cases hfile : Overrides.ofFile d path with
    | error e =>
        rw [mergeFile_of_error hfile] at h
        cases h
    | ok o =>
        rw [mergeFile_of_settings hfile] at h
        obtain ⟨⟨⟩, hvalid, rfl⟩ := map_eq_ok.mp h
        obtain ⟨es, htable, hsets⟩ := ofFile_eq_ok.mp hfile
        exact ⟨es, htable, merged_override htable.nodup hsets, hvalid⟩
  · rintro ⟨es, htable, hmerged, hvalid⟩
    obtain ⟨o, hsets, rfl⟩ := (merged_iff htable.nodup).mp hmerged
    rw [mergeFile_of_settings (ofFile_eq_ok.mpr ⟨es, htable, hsets⟩), hvalid]
    rfl

theorem kind_of_ofFile {bytes : ByteArray} {e : Error} (hpath : path.isFilePath = true)
    (hcontents : d.contents path.names = .ok bytes) (h : Overrides.ofFile d path = .error e) :
    e.kind = .invalidArgument := by
  unfold Overrides.ofFile at h
  cases htext : FileStorage.readText d path fileSizeLimit with
  | error e' =>
      rw [htext] at h
      cases h
      exact FileStorage.kind_of_readText hpath hcontents htext
  | ok text =>
      rw [htext] at h
      change (Overrides.read text).mapError Error.ofToml = .error e at h
      cases hread : Overrides.read text with
      | error fault =>
          rw [hread] at h
          cases h
          rfl
      | ok o =>
          rw [hread] at h
          cases h

-- What no file of settings consists of is refused, whatever is to be configured.
theorem mergeFile_of_unfit {bytes : ByteArray} (hcontents : d.contents path.names = .ok bytes)
    (h : Unfit bytes) :
    ∃ e, (path.isFilePath = true → e.kind = .invalidArgument) ∧
      ∀ c : Config, c.mergeFile d path = .error e := by
  cases hfile : Overrides.ofFile d path with
  | error e =>
      exact ⟨e, fun hpath => kind_of_ofFile hpath hcontents hfile, mergeFile_of_error hfile⟩
  | ok o =>
      exfalso
      obtain ⟨ps, ⟨text, -, htext, hsize, htexts⟩, hsets⟩ := ofFile_eq_ok.mp hfile
      obtain rfl : bytes = text.toUTF8 := Except.ok.inj (hcontents.symm.trans htext)
      obtain ⟨es, hread, hall⟩ := Toml.readTexts_eq_ok.mp htexts
      -- The bytes are those of one text only, and this one has been read.
      have hentry {text' : String} {es' : Toml.Entries} {e : Toml.Key × Toml.Item}
          (htext' : text'.toUTF8 = text.toUTF8) (hread' : Toml.read text' = .ok es')
          (he : e ∈ es') : ∃ p ∈ ps, Toml.IsEntryOf e p := by
        obtain rfl : text' = text := String.toByteArray_inj.mp htext'
        obtain rfl : es = es' := Except.ok.inj (hread.symm.trans hread')
        exact Toml.exists_of_mem_entries hall he
      cases h with
      | large hlarge => exact absurd hsize (Nat.not_le.mpr hlarge)
      | unknown htext' hread' he hname =>
          obtain ⟨p, hp, heq, -⟩ := hentry htext' hread' he
          exact hname (heq ▸ hsets.mem_known p hp)
      | mistyped htext' hread' he hitem =>
          obtain ⟨p, -, -, span, heq⟩ := hentry htext' hread' he
          exact hitem p.2 span heq

end Files

-- One file of settings after another.
def mergeFiles (c : Config) (d : Directory) (a : FilePath) (d' : Directory) (b : FilePath) :
    Except Error Config := do
  (← c.mergeFile d a).mergeFile d' b

-- What two files do one after the other.
structure Composes (c : Config) (d : Directory) (a : FilePath) (d' : Directory) (b : FilePath)
    (as bs : List (String × String)) : Prop where
  table : ∃ text es, Over bs as es ∧ Toml.readTexts text = .ok es
  asOne (c' : Config) : c.mergeFiles d a d' b = .ok c' →
    ∀ d'' u es, IsTable d'' u es → Over bs as es → c.mergeFile d'' u = .ok c'
  eitherWay (x y : Config) : (as.map Prod.fst).Disjoint (bs.map Prod.fst) →
    c.mergeFiles d a d' b = .ok x → c.mergeFiles d' b d a = .ok y → x = y

section TwoFiles

variable {c c' : Config} {d d' : Directory} {a b : FilePath} {as bs es : List (String × String)}

theorem merged_of_mergeFiles (has : IsTable d a as) (hbs : IsTable d' b bs) (hover : Over bs as es)
    (h : c.mergeFiles d a d' b = .ok c') : c.Merged es c' ∧ c'.validate = .ok () := by
  obtain ⟨c₁, hfirst, hsecond⟩ := bind_eq_ok.mp h
  obtain ⟨as', has', hmerged, -⟩ := mergeFile_eq_ok.mp hfirst
  obtain ⟨bs', hbs', hmerged', hvalid⟩ := mergeFile_eq_ok.mp hsecond
  obtain rfl := has.unique has'
  obtain rfl := hbs.unique hbs'
  exact ⟨hmerged.trans hmerged' hover, hvalid⟩

theorem mergeFiles_self (c : Config) (d : Directory) (a : FilePath) :
    c.mergeFiles d a d a = c.mergeFile d a := by
  unfold mergeFiles
  cases hmerge : c.mergeFile d a with
  | error e => rfl
  | ok c' =>
      obtain ⟨as, has, hmerged, hvalid⟩ := mergeFile_eq_ok.mp hmerge
      exact mergeFile_eq_ok.mpr ⟨as, has, hmerged.again, hvalid⟩

theorem composes_of_tables (has : IsTable d a as) (hbs : IsTable d' b bs) :
    c.Composes d a d' b as bs where
  table := exists_over has.nodup hbs.nodup
  asOne c' h d'' u es hes hover := by
    obtain ⟨hmerged, hvalid⟩ := merged_of_mergeFiles has hbs hover h
    exact mergeFile_eq_ok.mpr ⟨es, hes, hmerged, hvalid⟩
  eitherWay x y hdisjoint hx hy := by
    obtain ⟨-, es, hover, -⟩ := exists_over has.nodup hbs.nodup
    have hmerged := (merged_of_mergeFiles has hbs hover hx).1
    have hmerged' := (merged_of_mergeFiles hbs has (hover.of_disjoint hdisjoint) hy).1
    exact hmerged'.unique hmerged

end TwoFiles

-- A file is merged if it is a table of settings within the limit and what it makes of the
-- configuration is valid; it then has its say setting by setting, and all else is as before. A file
-- that is larger or says anything else is refused, whatever the configuration. Two files are as
-- good as one with the entries of the second and the other entries of the first.
theorem files_compose (c : Config) (d : Directory) (a : FilePath) :
    (∀ c', c.mergeFile d a = .ok c' ↔
      ∃ as, IsTable d a as ∧ c.Merged as c' ∧ c'.validate = .ok ()) ∧
    (∀ bytes, d.contents a.names = .ok bytes → Unfit bytes →
      ∃ e, (a.isFilePath = true → e.kind = .invalidArgument) ∧
        ∀ c : Config, c.mergeFile d a = .error e) ∧
    c.mergeFiles d a d a = c.mergeFile d a ∧
    ∀ d' b as bs, IsTable d a as → IsTable d' b bs → c.Composes d a d' b as bs :=
  ⟨fun _ => mergeFile_eq_ok, fun _ => mergeFile_of_unfit, mergeFiles_self c d a,
    fun _ _ _ _ => composes_of_tables⟩

-- Both files have a key of the token. One file has what is left of them, in another notation.
theorem files_compose_token_key :
    let c : Config :=
      { appName := "profile-viewer", appVersion := "0.1.0", appLang := "en"
        userAgent := "profile-viewer/0.1.0"
        baseUrl := ⟨"http", some { host := some (.domain "localhost") }, "/", none, none⟩ }
    let d : Directory :=
      ⟨[(["a.toml"], .file "token_key = 'k'\nlogin_path = '/in'\n".toUTF8),
        (["b.toml"], .file "token_key = 'l'\n".toUTF8),
        (["one.toml"], .file "'login_path' = \"/in\" # of a\ntoken_key = '''l'''".toUTF8)]⟩
    c.mergeFile d ⟨"one.toml"⟩ = .ok { c with tokenKey := "l", loginPath := "/in" } := by
  intro c d
  have ha : IsTable d ⟨"a.toml"⟩ [("token_key", "k"), ("login_path", "/in")] :=
    ⟨_, by decide +kernel, rfl, by decide +kernel, by decide +kernel⟩
  have hb : IsTable d ⟨"b.toml"⟩ [("token_key", "l")] :=
    ⟨_, by decide +kernel, rfl, by decide +kernel, by decide +kernel⟩
  have hone : IsTable d ⟨"one.toml"⟩ [("login_path", "/in"), ("token_key", "l")] :=
    ⟨_, by decide +kernel, rfl, by decide +kernel, by decide +kernel⟩
  have hover : Over [("token_key", "l")] [("token_key", "k"), ("login_path", "/in")]
      [("login_path", "/in"), ("token_key", "l")] := by
    intro e
    grind
  have hfirst : c.mergeFile d ⟨"a.toml"⟩ = .ok { c with tokenKey := "k", loginPath := "/in" } := by
    have hfile : Overrides.ofFile d ⟨"a.toml"⟩ =
        .ok { tokenKey := some "k", loginPath := some "/in" } := by decide +kernel
    rw [mergeFile_of_settings hfile, validate_of_token (by decide) rfl]
    rfl
  have hsecond : Config.mergeFile { c with tokenKey := "k", loginPath := "/in" } d ⟨"b.toml"⟩ =
      .ok { c with tokenKey := "l", loginPath := "/in" } := by
    have hfile : Overrides.ofFile d ⟨"b.toml"⟩ = .ok { tokenKey := some "l" } := by decide +kernel
    rw [mergeFile_of_settings hfile, validate_of_token (by decide) rfl]
    rfl
  have hboth : c.mergeFiles d ⟨"a.toml"⟩ d ⟨"b.toml"⟩ =
      .ok { c with tokenKey := "l", loginPath := "/in" } := by
    rw [mergeFiles, hfirst]
    exact hsecond
  exact ((files_compose c d ⟨"a.toml"⟩).2.2.2 d ⟨"b.toml"⟩ _ _ ha hb).asOne _ hboth d _ _ hone hover

end Config

end ProfileSession
