import Mathlib.Data.List.TakeWhile
import ProfileSession.FilePath
import ProfileSession.Proofs.Text.Split

namespace ProfileSession.FilePath

-- Whether a file can have the path.
def isFilePath (p : FilePath) : Bool := p.fault?.isNone && !p.isFolderPath

theorem isFilePath_iff {p : FilePath} :
    p.isFilePath = true ↔ p.fault? = none ∧ p.isFolderPath = false := by
  simp [isFilePath]

theorem fault?_eq_none {p : FilePath} :
    p.fault? = none ↔ '\x00' ∉ p.text.toList ∧ p.text.utf8ByteSize < lengthLimit := by
  unfold fault?
  split_ifs with hnul hlong <;> simp_all

theorem fault?_of_long {p : FilePath} (hnul : '\x00' ∉ p.text.toList)
    (hlong : lengthLimit ≤ p.text.utf8ByteSize) : p.fault? = some .nameTooLong := by
  rw [fault?, if_neg (by simpa using hnul), if_pos hlong]

-- The last name, if it can be that of a file.
def fileName? (names : List String) : Option String :=
  names.getLast?.filter fun name => !(name == ".." || name == "/" || name == ".")

-- What follows the last point of a name. A point in front is part of the name.
def extension? (name : String) : Option String :=
  match Text.cutLast? '.' name.toList with
  | some (_ :: _, ext) => some (String.ofList ext)
  | _ => none

-- The names with another extension on the last, if that can be the name of a file.
def renamed (ext : String) : List String → List String
  | [] => []
  | [name] =>
    if name = ".." ∨ name = "/" ∨ name = "." then [name]
    else [String.ofList (stem name.toList) ++ "." ++ ext]
  | name :: names => name :: renamed ext names

theorem renamed_append (ext : String) (front : List String) (name : String) :
    renamed ext (front ++ [name]) = front ++ renamed ext [name] := by
  induction front with
  | nil => rfl
  | cons first front ih =>
      cases front with
      | nil => rfl
      | cons second front => exact congrArg (first :: ·) ih

theorem renamed_last (ext : String) (name : String) : ∃ other, renamed ext [name] = [other] := by
  unfold renamed
  split_ifs <;> exact ⟨_, rfl⟩

theorem fileName?_eq_some {names : List String} {name : String} (h : fileName? names = some name) :
    ∃ front, names = front ++ [name] ∧ ¬(name = ".." ∨ name = "/" ∨ name = ".") := by
  obtain ⟨hlast, hname⟩ := Option.filter_eq_some_iff.mp h
  obtain ⟨front, hnames⟩ := List.getLast?_eq_some_iff.mp hlast
  exact ⟨front, hnames, by simpa [and_assoc] using hname⟩

-- Only a name that has the extension already stays as it is.
theorem stem_append_eq_iff (name ext : String) :
    String.ofList (stem name.toList) ++ "." ++ ext = name ↔ extension? name = some ext := by
  have hlist : String.ofList (stem name.toList) ++ "." ++ ext = name ↔
      stem name.toList ++ '.' :: ext.toList = name.toList := by
    rw [← String.toList_inj]
    simp
  rw [hlist, stem, extension?]
  cases hcut : Text.cutLast? '.' name.toList with
  | none => simp
  | some r =>
      obtain ⟨front, back⟩ := r
      have hname := Text.cutLast?_eq_some hcut
      cases front with
      | nil => simp
      | cons c front =>
          rw [hname]
          simp [← String.toList_inj, eq_comm]

-- A stem is the front of its name, and empty only if the name is.
theorem exists_stem_append (name : List Char) :
    ∃ rest, name = stem name ++ rest ∧ (name ≠ [] → stem name ≠ []) := by
  unfold stem
  cases hcut : Text.cutLast? '.' name with
  | none => exact ⟨[], by simp, id⟩
  | some r =>
      obtain ⟨front, back⟩ := r
      cases front with
      | nil => exact ⟨[], by simp, id⟩
      | cons c front => exact ⟨_, Text.cutLast?_eq_some hcut, fun _ => List.cons_ne_nil _ _⟩

section Names

variable {cs front back name : List Char}

theorem parts_split (front back : List Char) :
    parts (front ++ '/' :: back) = parts front ++ parts back := by
  have hpieces : Text.pieces (· == '/') (front ++ '/' :: back) =
      Text.pieces (· == '/') front ++ Text.pieces (· == '/') back :=
    Text.pieces_split (by simp) front back
  rw [parts, hpieces, List.filter_append]
  rfl

theorem parts_name (hslash : '/' ∉ name) (hempty : name ≠ []) (hpoint : name ≠ ['.']) :
    parts name = [name] := by
  have hpieces : Text.pieces (· == '/') name = [name] :=
    Text.pieces_of_all_not fun c hc => beq_false_of_ne fun heq => hslash (heq ▸ hc)
  rw [parts, hpieces]
  simp [hempty, hpoint]

-- What stands before a name: nothing, or a text that ends in a slash.
def IsFront (front : List Char) : Prop := front = [] ∨ ∃ folder, front = folder ++ ['/']

theorem parts_front (h : IsFront front) (name : List Char) :
    parts (front ++ name) = parts front ++ parts name := by
  rcases h with rfl | ⟨folder, rfl⟩
  · rfl
  · have hfolder : parts (folder ++ ['/']) = parts folder ++ parts [] := parts_split folder []
    rw [List.append_assoc, List.singleton_append, parts_split, hfolder]
    simp [parts, Text.pieces]

-- Names that stand in the same place follow the same root.
theorem root_front {name other : List Char} (hname : name ≠ []) (hother : other ≠ [])
    (hslash : '/' ∉ name) (hslash' : '/' ∉ other) (tail : List Char) :
    root (front ++ name ++ tail) = root (front ++ other) := by
  cases front with
  | cons c front => rfl
  | nil =>
      cases name with
      | nil => exact absurd rfl hname
      | cons c name =>
          cases other with
          | nil => exact absurd rfl hother
          | cons d other =>
              have hc : c ≠ '/' := fun heq => hslash (heq ▸ List.mem_cons_self)
              have hd : d ≠ '/' := fun heq => hslash' (heq ▸ List.mem_cons_self)
              simp [root, hc, hd]

theorem names_concat {p : FilePath} {ps : List (List Char)}
    (h : parts p.text.toList = ps ++ [name]) :
    p.names = root p.text.toList ++ ps.map String.ofList ++ [String.ofList name] := by
  have hparts : root p.text.toList ++ (parts p.text.toList).map String.ofList =
      root p.text.toList ++ ps.map String.ofList ++ [String.ofList name] := by
    simp [h]
  unfold names
  dsimp only
  rw [hparts]
  split
  · rename_i hnil
    simp at hnil
  · rfl

theorem trimmed_suffix (cs : List Char) : ∃ tail, cs = tail ++ trimmed cs := by
  fun_induction trimmed cs with
  | case1 cs ih =>
      obtain ⟨tail, htail⟩ := ih
      exact ⟨'/' :: tail, congrArg _ htail⟩
  | case2 cs ih =>
      obtain ⟨tail, htail⟩ := ih
      exact ⟨'.' :: '/' :: tail, congrArg (fun cs => '.' :: '/' :: cs) htail⟩
  | case3 cs => exact ⟨[], rfl⟩

-- What is cut off names nothing.
theorem parts_trimmed (cs : List Char) : parts (trimmed cs).reverse = parts cs.reverse := by
  fun_induction trimmed cs with
  | case1 cs ih => simp [parts_split, ih, show parts [] = [] from rfl]
  | case2 cs ih => simp [parts_split, ih, show parts ['.'] = [] from rfl]
  | case3 cs => rfl

-- What is left ends in a name, which is a point only if nothing stands before it.
theorem trimmed_ne (cs rest : List Char) :
    trimmed cs ≠ '/' :: rest ∧ trimmed cs ≠ '.' :: '/' :: rest := by
  fun_induction trimmed cs with
  | case1 cs ih => exact ih
  | case2 cs ih => exact ih
  | case3 cs hslash hpoint => exact ⟨hslash rest, hpoint rest⟩

end Names

-- What a path comes to: a name, what stands before it, and a tail that says nothing.
structure EndsIn (p : FilePath) (front name : List Char) : Prop where
  whole : ∃ tail, p.text.toList = front ++ name ++ tail
  named : parts p.text.toList = parts (front ++ name)
  cut : IsFront front
  slash : '/' ∉ name
  alone : name = [] ∨ name = ['.'] → front = []

-- What stands in front of the last name of a text that is read from its end.
theorem dropWhile_name (back : List Char) : back.dropWhile (· != '/') = [] ∨
    ∃ rest, back.dropWhile (· != '/') = '/' :: rest := by
  cases hrest : back.dropWhile (· != '/') with
  | nil => exact Or.inl rfl
  | cons c rest =>
      have hc := List.head?_dropWhile_not (· != '/') back
      rw [hrest] at hc
      have hslash : c = '/' := by simpa using hc
      exact Or.inr ⟨rest, by rw [hslash]⟩

-- A text without slashes and idle points at its end has a name there, unless that is all of it.
theorem dropWhile_of_alone {cs : List Char}
    (hname : (trimmed cs).takeWhile (· != '/') = [] ∨ (trimmed cs).takeWhile (· != '/') = ['.']) :
    (trimmed cs).dropWhile (· != '/') = [] := by
  rcases dropWhile_name (trimmed cs) with hnone | ⟨rest, hrest⟩
  · exact hnone
  · have hwhole := List.takeWhile_append_dropWhile (p := (· != '/')) (l := trimmed cs)
    rw [hrest] at hwhole
    obtain ⟨hslash, hpoint⟩ := trimmed_ne cs rest
    rcases hname with hnil | hone
    · rw [hnil] at hwhole
      exact absurd hwhole.symm hslash
    · rw [hone] at hwhole
      exact absurd hwhole.symm hpoint

theorem endsIn (p : FilePath) :
    let back := trimmed p.text.toList.reverse
    p.EndsIn (back.dropWhile (· != '/')).reverse (back.takeWhile (· != '/')).reverse := by
  intro back
  have hback : (back.dropWhile (· != '/')).reverse ++ (back.takeWhile (· != '/')).reverse =
      back.reverse := by
    rw [← List.reverse_append, List.takeWhile_append_dropWhile]
  constructor
  · obtain ⟨tail, htail⟩ := trimmed_suffix p.text.toList.reverse
    refine ⟨tail.reverse, ?_⟩
    rw [hback, ← List.reverse_append, ← htail, List.reverse_reverse]
  · rw [hback, parts_trimmed, List.reverse_reverse]
  · rcases dropWhile_name back with hnone | ⟨rest, hrest⟩
    · exact Or.inl (by rw [hnone]; rfl)
    · exact Or.inr ⟨rest.reverse, by rw [hrest, List.reverse_cons]⟩
  · intro hmem
    have hname := List.mem_takeWhile_imp (List.mem_reverse.mp hmem)
    simp at hname
  · intro hname
    have halone := hname.imp List.reverse_eq_nil_iff.mp List.reverse_eq_iff.mp
    rw [dropWhile_of_alone halone]
    rfl

-- Another extension, by what the path comes to.
theorem exists_endsIn (p : FilePath) (ext : String) :
    ∃ front name, p.EndsIn front name ∧ p.withExtension ext =
      if name = [] ∨ name = ['.'] ∨ name = ['.', '.'] then p
      else ⟨String.ofList (front ++ stem name) ++ "." ++ ext⟩ :=
  ⟨_, _, p.endsIn, rfl⟩

section Extension

variable {p : FilePath} {front name : List Char} {ext : String}

-- A path that ends in no name at all.
theorem renamed_names_of_alone (h : p.EndsIn front name) (hname : name = [] ∨ name = ['.']) :
    renamed ext p.names = p.names := by
  have hnone : parts p.text.toList = [] := by
    rw [h.named, h.alone hname]
    rcases hname with rfl | rfl <;> rfl
  unfold names
  dsimp only
  rw [hnone]
  unfold root
  split_ifs <;> rfl

theorem names_of_endsIn (h : p.EndsIn front name) (hempty : name ≠ []) (hpoint : name ≠ ['.']) :
    p.names = root p.text.toList ++ (parts front).map String.ofList ++ [String.ofList name] := by
  refine names_concat ?_
  rw [h.named, parts_front h.cut, parts_name h.slash hempty hpoint]

-- A stem with an extension is a name of its own.
theorem stem_append_ordinary (hempty : name ≠ []) (hslash : '/' ∉ name) (hext : '/' ∉ ext.toList) :
    let other := stem name ++ '.' :: ext.toList
    '/' ∉ other ∧ other ≠ [] ∧ other ≠ ['.'] := by
  intro other
  obtain ⟨rest, hrest, hstem⟩ := exists_stem_append name
  refine ⟨fun hmem => ?_, by simp [other], fun hpoint => ?_⟩
  · rcases List.mem_append.mp hmem with hmem | hmem
    · exact hslash (hrest ▸ List.mem_append_left rest hmem)
    · rcases List.mem_cons.mp hmem with heq | hmem
      · exact absurd heq (by decide)
      · exact hext hmem
  · have hlength := congrArg List.length hpoint
    have hpos := List.length_pos_iff.mpr (hstem hempty)
    simp only [other, List.length_append, List.length_cons, List.length_nil] at hlength
    omega

theorem ordinary_ofList (hslash : '/' ∉ name) (hpoint : name ≠ ['.'])
    (hpoints : name ≠ ['.', '.']) :
    ¬(String.ofList name = ".." ∨ String.ofList name = "/" ∨ String.ofList name = ".") := by
  rintro (heq | heq | heq) <;> have hname := congrArg String.toList heq <;>
    rw [String.toList_ofList] at hname
  · exact hpoints hname
  · exact hslash (hname ▸ by decide)
  · exact hpoint hname

-- The stem of a name with the extension stands where the name has stood.
theorem names_of_stem (h : p.EndsIn front name) (hempty : name ≠ []) (hpoint : name ≠ ['.'])
    (hpoints : name ≠ ['.', '.']) (hext : '/' ∉ ext.toList) :
    names ⟨String.ofList (front ++ stem name) ++ "." ++ ext⟩ = renamed ext p.names := by
  obtain ⟨hslash, hother, hlonger⟩ := stem_append_ordinary hempty h.slash hext
  obtain ⟨tail, htail⟩ := h.whole
  have htext : (String.ofList (front ++ stem name) ++ "." ++ ext).toList =
      front ++ (stem name ++ '.' :: ext.toList) := by
    simp
  have hparts : parts (String.ofList (front ++ stem name) ++ "." ++ ext).toList =
      parts front ++ [stem name ++ '.' :: ext.toList] := by
    rw [htext, parts_front h.cut, parts_name hslash hother hlonger]
  have hroot : root (String.ofList (front ++ stem name) ++ "." ++ ext).toList =
      root p.text.toList := by
    rw [htext, htail, root_front hempty hother h.slash hslash]
  rw [names_concat hparts, names_of_endsIn h hempty hpoint, renamed_append, renamed,
    if_neg (ordinary_ofList h.slash hpoint hpoints), hroot]
  simp [String.append_assoc]

-- The extension is that of the last name, whatever else stands in the text.
theorem names_withExtension (p : FilePath) (hext : '/' ∉ ext.toList) :
    (p.withExtension ext).names = renamed ext p.names := by
  obtain ⟨front, name, hends, hwith⟩ := p.exists_endsIn ext
  rw [hwith]
  split_ifs with hname
  · rcases hname with hnil | hpoint | rfl
    · exact (renamed_names_of_alone hends (Or.inl hnil)).symm
    · exact (renamed_names_of_alone hends (Or.inr hpoint)).symm
    · rw [names_of_endsIn hends (by decide) (by decide), renamed_append]
      rfl
  · simp only [not_or] at hname
    obtain ⟨hempty, hpoint, hpoints⟩ := hname
    exact names_of_stem hends hempty hpoint hpoints hext

-- No character comes in but those of the extension, so that a path which the system takes is one
-- that it takes with another extension, unless it has become too long.
theorem fault?_withExtension (h : p.fault? = none) (hext : '\x00' ∉ ext.toList)
    (hsize : (p.withExtension ext).text.utf8ByteSize < lengthLimit) :
    (p.withExtension ext).fault? = none := by
  refine fault?_eq_none.mpr ⟨fun hmem => ?_, hsize⟩
  obtain ⟨hnul, -⟩ := fault?_eq_none.mp h
  obtain ⟨front, name, hends, hwith⟩ := p.exists_endsIn ext
  obtain ⟨tail, htail⟩ := hends.whole
  rw [hwith] at hmem
  split_ifs at hmem with hname
  · exact hnul hmem
  · obtain ⟨rest, hrest, -⟩ := exists_stem_append name
    rw [htail, hrest] at hnul
    simp only [String.toList_append, String.toList_ofList, List.mem_append] at hmem hnul
    rcases hmem with (⟨hfront | hstem⟩ | hdot) | hmem
    · exact hnul (Or.inl (Or.inl hfront))
    · exact hnul (Or.inl (Or.inr (Or.inl hstem)))
    · exact absurd hdot (by decide)
    · exact hext hmem

end Extension

-- A path that ends in a name without points.
section Plain

variable {front cs : List Char}

theorem stem_plain (hpoint : '.' ∉ cs) : stem cs = cs := by
  have hcut : Text.cutLast? '.' cs = none := by
    rw [Text.cutLast?, Text.cut?_eq_none (by simpa using hpoint)]
    rfl
  rw [stem, hcut]

variable (hfront : IsFront front) (hslash : '/' ∉ cs) (hpoint : '.' ∉ cs) (hempty : cs ≠ [])

include hslash hpoint hempty

-- It ends in a character that is neither.
theorem exists_reverse_cons : ∃ c rest, cs.reverse = c :: rest ∧ c ≠ '/' ∧ c ≠ '.' := by
  cases hreverse : cs.reverse with
  | nil => exact absurd (List.reverse_eq_nil_iff.mp hreverse) hempty
  | cons c rest =>
      have hmem : c ∈ cs := List.mem_reverse.mp (hreverse ▸ List.mem_cons_self)
      exact ⟨c, rest, rfl, fun heq => hslash (heq ▸ hmem), fun heq => hpoint (heq ▸ hmem)⟩

theorem isFolderPath_plain : isFolderPath ⟨String.ofList (front ++ cs)⟩ = false := by
  obtain ⟨c, rest, hreverse, hc, hdot⟩ := exists_reverse_cons hslash hpoint hempty
  simp only [isFolderPath, String.toList_ofList, List.reverse_append, hreverse, List.cons_append]
  split <;> simp_all

include hfront

theorem names_plain : names ⟨String.ofList (front ++ cs)⟩ =
    root (front ++ cs) ++ (parts front).map String.ofList ++ [String.ofList cs] := by
  have hparts : parts (FilePath.mk (String.ofList (front ++ cs))).text.toList =
      parts front ++ [cs] := by
    rw [String.toList_ofList, parts_front hfront,
      parts_name hslash hempty fun heq => hpoint (heq ▸ List.mem_singleton_self _)]
  rw [names_concat hparts, String.toList_ofList]

-- The extension follows the text.
theorem withExtension_plain (ext : String) : withExtension ext ⟨String.ofList (front ++ cs)⟩ =
    ⟨String.ofList (front ++ cs) ++ "." ++ ext⟩ := by
  obtain ⟨c, rest, hreverse, hc, hdot⟩ := exists_reverse_cons hslash hpoint hempty
  have htrimmed : trimmed (front ++ cs).reverse = cs.reverse ++ front.reverse := by
    rw [List.reverse_append, hreverse, List.cons_append, trimmed]
    · exact fun _ heq => hc (List.cons.inj heq).1
    · exact fun _ heq => hdot (List.cons.inj heq).1
  have hname : ∀ d ∈ cs.reverse, (d != '/') = true := by
    intro d hd
    rw [bne_iff_ne]
    exact fun heq => hslash (heq ▸ List.mem_reverse.mp hd)
  have hbefore : front.reverse.takeWhile (· != '/') = [] ∧
      front.reverse.dropWhile (· != '/') = front.reverse := by
    rcases hfront with rfl | ⟨folder, rfl⟩ <;> simp
  have hnone : ¬(cs = [] ∨ cs = ['.'] ∨ cs = ['.', '.']) := by
    rintro (heq | heq | heq)
    · exact hempty heq
    · exact hpoint (heq ▸ by decide)
    · exact hpoint (heq ▸ by decide)
  simp only [withExtension, String.toList_ofList, htrimmed,
    List.takeWhile_append_of_pos hname, List.dropWhile_append_of_pos hname, hbefore.1, hbefore.2,
    List.append_nil, List.reverse_reverse, if_neg hnone, stem_plain hpoint]

end Plain

end ProfileSession.FilePath
