import Mathlib.Data.List.Nodup
import ProfileSession.Proofs.Except
import ProfileSession.Proofs.Toml.RoundTrip

namespace ProfileSession.Toml

namespace Entries

def names (es : Entries) : List String := es.map fun e => e.1.name

def Distinct (es : Entries) : Prop := es.names.Nodup

variable {es : Entries} {name : String}

theorem names_replace (item : Item) : (es.replace name item).names = es.names := by
  induction es with
  | nil => rfl
  | cons e es ih =>
      rw [replace]
      split_ifs
      · rfl
      · exact congrArg (e.1.name :: ·) ih

theorem Distinct.replace (h : es.Distinct) (item : Item) : (es.replace name item).Distinct := by
  rw [Distinct, names_replace]
  exact h

theorem Distinct.erase (h : es.Distinct) : (es.erase name).Distinct :=
  (List.filter_sublist.map _).nodup h

theorem Distinct.concat {k : Key} (h : es.Distinct) (hnew : es.find? k.name = none)
    (item : Item) : Distinct (es ++ [(k, item)]) := by
  have hnotMem : k.name ∉ es.names := by
    intro hmem
    obtain ⟨e, he, heq⟩ := List.mem_map.mp hmem
    exact find?_eq_none_iff.mp hnew e he heq
  rw [Distinct, names, List.map_append]
  exact List.nodup_append.mpr
    ⟨h, List.nodup_singleton _, fun a ha b hb => by
      obtain rfl : b = k.name := by simpa using hb
      rintro rfl
      exact hnotMem ha⟩

end Entries

-- A change of a table that leaves no name twice.
def KeepsDistinct (change : Form → Entries → Option Entries) : Prop :=
  ∀ form es es', change form es = some es' → es.Distinct → es'.Distinct

section Changes

variable {es es' : Entries} {form here : Form}

-- The path is not followed here: below its first name all changes are inside one entry.
theorem distinct_within {change : Form → Entries → Option Entries} {path : List Key}
    (hchange : KeepsDistinct change) (h : within form change path here es = some es')
    (hes : es.Distinct) : es'.Distinct := by
  cases path with
  | nil => exact hchange here es es' h hes
  | cons k path =>
      rw [within] at h
      split at h
      · rename_i hnew
        obtain ⟨inner, -, rfl⟩ := Option.map_eq_some_iff.mp h
        exact hes.concat hnew _
      · split_ifs at h
        obtain ⟨inner, -, rfl⟩ := Option.map_eq_some_iff.mp h
        exact hes.replace _
      · split at h
        · obtain ⟨inner, -, rfl⟩ := Option.map_eq_some_iff.mp h
          exact hes.replace _
        · cases h
      · cases h

theorem distinct_addValue {path : List Key} {key : Key} {item : Item}
    (h : addValue path key item here es = some es') (hes : es.Distinct) : es'.Distinct := by
  refine distinct_within ?_ h hes
  intro form es es' h hes
  dsimp only at h
  split_ifs at h
  split at h
  · cases h
  · rename_i hnew
    cases h
    exact hes.concat hnew item

end Changes

namespace Draft

-- What is read of a document gives no name twice. Only the lines before the first header belong to
-- the outermost table.
structure Distinct (d : Draft) : Prop where
  root : d.root.Distinct
  current : splitLast d.current.path = none → d.current.entries.Distinct

variable {d d' : Draft}

theorem Distinct.complete {es : Entries} (hd : d.Distinct) (h : d.complete = some es) :
    es.Distinct := by
  unfold Draft.complete at h
  dsimp only at h
  split at h
  · rename_i hpath
    cases h
    exact hd.current hpath
  · refine distinct_within ?_ h hd.root
    intro form es es' h hes
    dsimp only at h
    split at h
    · rename_i hnew
      cases h
      exact hes.concat hnew _
    · split_ifs at h
      cases h
      exact hes.replace _
    · cases h

theorem Distinct.startTable {path : List Key} {header : Span} (hd : d.Distinct)
    (h : d.startTable path header = some d') : d'.Distinct := by
  simp only [Draft.startTable, Option.bind_eq_bind, Option.bind_eq_some_iff] at h
  obtain ⟨root, hcomplete, ⟨front, key⟩, hpath, h⟩ := h
  -- What the new table holds already has no bearing on the tables around it.
  obtain ⟨held, root', hwithin, rfl⟩ : ∃ held root',
      within .implied (fun _ es => some (es.erase key.name)) front .stated root = some root' ∧
        d' = ⟨root', ⟨path, false, held, some header⟩⟩ := by
    split at h
    rotate_right
    · cases h
    all_goals
      obtain ⟨held, -, h⟩ := Option.bind_eq_some_iff.mp h
      obtain ⟨root', hwithin, h⟩ := Option.bind_eq_some_iff.mp h
      exact ⟨held, root', hwithin, (Option.some.inj h).symm⟩
  refine ⟨distinct_within ?_ hwithin (hd.complete hcomplete), fun hnone => ?_⟩
  · intro form es es' h hes
    cases h
    exact hes.erase
  · exact absurd (hpath.symm.trans hnone) (by simp)

theorem Distinct.startOneOfMany {path : List Key} {header : Span} (hd : d.Distinct)
    (h : d.startOneOfMany path header = some d') : d'.Distinct := by
  simp only [Draft.startOneOfMany, Option.bind_eq_bind, Option.bind_eq_some_iff] at h
  obtain ⟨root, hcomplete, ⟨front, key⟩, hpath, root', hwithin, h⟩ := h
  cases h
  refine ⟨distinct_within ?_ hwithin (hd.complete hcomplete), fun hnone => ?_⟩
  · intro form es es' h hes
    dsimp only at h
    split at h
    · rename_i hnew
      cases h
      exact hes.concat hnew _
    · cases h
      exact hes
    · cases h
  · exact absurd (hpath.symm.trans hnone) (by simp)

theorem Distinct.addLine {path : List Key} {key : Key} {item : Item} (hd : d.Distinct)
    (h : d.addLine path key item = some d') : d'.Distinct := by
  simp only [Draft.addLine, Option.bind_eq_bind, Option.bind_eq_some_iff] at h
  obtain ⟨entries, hadd, h⟩ := h
  cases h
  exact ⟨hd.root, fun hpath => distinct_addValue hadd (hd.current hpath)⟩

end Draft

section Lines

variable {fuel : Nat} {d d' : Draft} {cs rest : List Char}

theorem distinct_assignment (hd : d.Distinct) (h : assignment fuel d cs = .ok (d', rest)) :
    d'.Distinct := by
  obtain ⟨⟨⟨path, key⟩, afterSign⟩, -, h⟩ := bind_eq_ok.mp h
  obtain ⟨⟨item, afterValue⟩, -, h⟩ := bind_eq_ok.mp h
  obtain ⟨⟨⟨⟩, next⟩, -, h⟩ := bind_eq_ok.mp h
  dsimp only at h
  split at h
  · rename_i hadd
    cases h
    exact hd.addLine hadd
  · cases h

theorem distinct_header {close whole : List Char} {start : List Key → Span → Draft → Option Draft}
    (hstart : ∀ path span d', start path span d = some d' → d'.Distinct)
    (h : header fuel close start d whole cs = .ok (d', rest)) : d'.Distinct := by
  obtain ⟨⟨⟨path, key⟩, afterKey⟩, -, h⟩ := bind_eq_ok.mp h
  dsimp only at h
  split_ifs at h
  · cases h
  · obtain ⟨⟨⟨⟩, next⟩, -, h⟩ := bind_eq_ok.mp h
    split at h
    · rename_i hsome
      cases h
      exact hstart _ _ _ hsome
    · cases h

theorem distinct_line (hd : d.Distinct) (h : line fuel d cs = .ok (d', rest)) : d'.Distinct := by
  unfold line at h
  split at h
  · exact distinct_header (fun _ _ _ => hd.startOneOfMany) h
  · exact distinct_header (fun _ _ _ => hd.startTable) h
  · exact distinct_assignment hd h

theorem distinct_lines {n : Nat} (hd : d.Distinct) (h : lines fuel n d cs = .ok d') :
    d'.Distinct := by
  induction n generalizing d cs with
  | zero => cases h
  | succ n ih =>
      rw [lines] at h
      split at h
      · cases h
        exact hd
      · split at h
        · exact ih hd h
        · cases h
      · split at h
        · exact ih hd h
        · split at h
          · rename_i hline
            exact ih (distinct_line hd hline) h
          · cases h

end Lines

theorem distinct_document {cs : List Char} {es : Entries} (h : document cs = .ok es) :
    es.Distinct := by
  unfold document at h
  dsimp only at h
  split at h
  · rename_i d hlines
    have hstart : Draft.Distinct {} := ⟨List.nodup_nil, fun _ => List.nodup_nil⟩
    have hd := distinct_lines hstart hlines
    split at h
    · rename_i hcomplete
      cases h
      exact hd.complete hcomplete
    · cases h
  · cases h

theorem distinct_read {s : String} {es : Entries} (h : read s = .ok es) : es.Distinct := by
  unfold read at h
  dsimp only at h
  split at h
  · rename_i hdocument
    cases h
    exact distinct_document hdocument
  · cases h

section Texts

variable {whole : List Char} {es : Entries} {ps : List (String × String)}

theorem wantText_eq_ok {wanted s : String} {e : Key × Item} :
    wantText wanted whole e = .ok s ↔ ∃ span, e.2 = .scalar (.text s) span := by
  unfold wantText
  split
  · rename_i heq
    simp [heq]
  · rename_i hother
    constructor
    · intro h
      cases h
    · rintro ⟨span, heq⟩
      exact absurd heq (hother s span)

theorem names_eq_of_forall₂ (h : List.Forall₂ IsEntryOf es ps) : es.names = ps.map Prod.fst := by
  induction h with
  | nil => rfl
  | cons he _ ih => exact congrArg₂ List.cons he.1 ih

theorem exists_of_mem_entries (h : List.Forall₂ IsEntryOf es ps) {e : Key × Item} (he : e ∈ es) :
    ∃ p ∈ ps, IsEntryOf e p := by
  induction h with
  | nil => cases he
  | cons hp _ ih =>
      rcases List.mem_cons.mp he with rfl | he
      · exact ⟨_, List.mem_cons_self, hp⟩
      · obtain ⟨p, hmem, hp⟩ := ih he
        exact ⟨p, List.mem_cons_of_mem _ hmem, hp⟩

theorem forall₂_of_mapM
    (h : (es.mapM fun e => return (e.1.name, ← wantText "a string" whole e)) =
      (.ok ps : Except Error (List (String × String)))) : List.Forall₂ IsEntryOf es ps := by
  induction es generalizing ps with
  | nil =>
      cases h
      exact .nil
  | cons e es ih =>
      rw [List.mapM_cons] at h
      obtain ⟨p, hp, h⟩ := bind_eq_ok.mp h
      obtain ⟨ps, hps, h⟩ := bind_eq_ok.mp h
      obtain ⟨s, hs, hp⟩ := bind_eq_ok.mp hp
      cases h
      cases hp
      exact .cons ⟨rfl, wantText_eq_ok.mp hs⟩ (ih hps)

-- A document is a table of texts if all its entries are texts.
theorem readTexts_eq_ok {s : String} :
    readTexts s = .ok ps ↔ ∃ es, read s = .ok es ∧ List.Forall₂ IsEntryOf es ps := by
  constructor
  · intro h
    obtain ⟨es, hread, h⟩ := bind_eq_ok.mp h
    exact ⟨es, hread, forall₂_of_mapM h⟩
  · rintro ⟨es, hread, hall⟩
    exact bind_eq_ok.mpr ⟨es, hread, mapM_wantText hall⟩

theorem nodup_readTexts {s : String} (h : readTexts s = .ok ps) : (ps.map Prod.fst).Nodup := by
  obtain ⟨es, hread, hall⟩ := readTexts_eq_ok.mp h
  rw [← names_eq_of_forall₂ hall]
  exact distinct_read hread

end Texts

end ProfileSession.Toml
