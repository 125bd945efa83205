import ProfileSession.Proofs.Toml.Forms
import ProfileSession.Toml.Reader

namespace ProfileSession.Toml

section Keys

theorem toNat_lt_of_isBareKeyChar {c : Char} (h : isBareKeyChar c = true) : c.toNat < 128 := by
  have hbelow : ∀ {last : UInt32}, c.val ≤ last → last.toNat < 128 → c.toNat < 128 :=
    fun hle hlt => Nat.lt_of_le_of_lt (UInt32.le_iff_toNat_le.mp hle) hlt
  simp only [isBareKeyChar, Bool.or_eq_true, beq_iff_eq] at h
  rcases h with (h | rfl) | rfl
  · have hkinds : ((c.isUpper || c.isLower) || c.isDigit) = true := h
    rcases Bool.or_eq_true_iff.mp hkinds with hletter | hdigit
    · rcases Bool.or_eq_true_iff.mp hletter with hupper | hlower
      · exact hbelow (of_decide_eq_true hupper).2 (by decide)
      · exact hbelow (of_decide_eq_true (Bool.and_eq_true_iff.mp hlower).2) (by decide)
    · exact hbelow (of_decide_eq_true (Bool.and_eq_true_iff.mp hdigit).2) (by decide)
  · decide
  · decide

-- A key starts with a quote or with a character of a bare key.
def startsKey (c : Char) : Bool := c == '"' || c == '\'' || isBareKeyChar c

theorem keyText_head (cs : List Char) :
    ∃ c cs', keyText cs = c :: cs' ∧ startsKey c = true := by
  unfold keyText
  dsimp only
  split_ifs with hbare
  · cases cs with
    | nil => simp [isBareKey] at hbare
    | cons c cs =>
        simp only [isBareKey, List.isEmpty_cons, Bool.not_false, Bool.true_and, List.all_cons,
          Bool.and_eq_true] at hbare
        exact ⟨c, cs, rfl, by simp [startsKey, isBareKeyChar, hbare.1]⟩
  · exact ⟨'"', _, rfl, rfl⟩
  · exact ⟨'\'', _, rfl, rfl⟩
  · exact ⟨'"', _, rfl, rfl⟩

theorem keyPart_bare {fuel : Nat} {cs : List Char} (rest : List Char) (h : isBareKey cs = true) :
    keyPart fuel (cs ++ ' ' :: rest) =
      .ok (⟨String.ofList cs, ⟨cs ++ ' ' :: rest, ' ' :: rest⟩⟩, ' ' :: rest) := by
  obtain ⟨hne, hall⟩ : cs ≠ [] ∧ ∀ c ∈ cs, isBareKeyChar c = true := by
    simpa [isBareKey, isBareKeyChar] using h
  obtain ⟨c, cs, rfl⟩ := List.exists_cons_of_ne_nil hne
  have hc := hall c (by simp)
  have htake : ((c :: cs) ++ ' ' :: rest).takeWhile isBareKeyChar = c :: cs := by
    rw [List.takeWhile_append_of_pos hall]
    simp [isBareKeyChar]
  have hdrop : ((c :: cs) ++ ' ' :: rest).dropWhile isBareKeyChar = ' ' :: rest := by
    rw [List.dropWhile_append_of_pos hall]
    simp [isBareKeyChar]
  unfold keyPart
  split
  · rename_i heq
    rw [(List.cons.inj heq).1] at hc
    exact absurd hc (by decide)
  · rename_i heq
    rw [(List.cons.inj heq).1] at hc
    exact absurd hc (by decide)
  · simp only [htake, hdrop, List.isEmpty_cons, Bool.false_eq_true, ite_false]

theorem keyPart_basicForm {fuel : Nat} (cs rest : List Char) (hn : (basicForm cs).length ≤ fuel) :
    keyPart fuel (basicForm cs ++ rest) =
      .ok (⟨String.ofList cs, ⟨basicForm cs ++ rest, rest⟩⟩, rest) := by
  simp only [basicForm, List.cons_append, List.length_cons, List.length_append,
    List.append_assoc, List.nil_append] at hn ⊢
  rw [keyPart, basic_escaped cs rest (by omega)]
  rfl

theorem keyPart_literalForm {fuel : Nat} {cs : List Char} (rest : List Char)
    (hp : ∀ c ∈ cs, isPlain c = true) (hq : '\'' ∉ cs) :
    keyPart fuel (literalForm cs ++ rest) =
      .ok (⟨String.ofList cs, ⟨literalForm cs ++ rest, rest⟩⟩, rest) := by
  simp only [literalForm, List.cons_append, List.append_assoc, List.nil_append]
  rw [keyPart, literal_quoted rest hp hq]
  rfl

theorem keyPart_keyText {fuel : Nat} (cs rest : List Char) (hn : (keyText cs).length ≤ fuel) :
    keyPart fuel (keyText cs ++ ' ' :: rest) =
      .ok (⟨String.ofList cs, ⟨keyText cs ++ ' ' :: rest, ' ' :: rest⟩⟩, ' ' :: rest) := by
  unfold keyText at hn ⊢
  simp only [Bool.and_eq_true, Bool.not_eq_true'] at hn ⊢
  split_ifs at hn ⊢ with hbare hbasic hliteral
  · exact keyPart_bare rest hbare
  · exact keyPart_basicForm cs _ hn
  · have hp : ∀ c ∈ cs, isPlain c = true := by
      intro c hc
      rw [isPlain_eq, Bool.not_eq_true']
      simpa using List.any_eq_false.mp hliteral.1 c hc
    exact keyPart_literalForm _ hp (by simpa using hliteral.2)
  · exact keyPart_basicForm cs _ hn

theorem startsKey_ne {c d : Char} (h : startsKey c = true) (hd : startsKey d = false) : c ≠ d := by
  rintro rfl
  rw [h] at hd
  cases hd

theorem isBlank_of_startsKey {c : Char} (h : startsKey c = true) : isBlank c = false := by
  have hs : c ≠ ' ' := startsKey_ne h (by decide)
  have ht : c ≠ '\t' := startsKey_ne h (by decide)
  simp [isBlank, hs, ht]

-- A key of one part, with the sign after it.
theorem keyAndSign_keyText (fuel : Nat) (cs rest : List Char) (hn : (keyText cs).length ≤ fuel) :
    ∃ span, keyAndSign fuel (keyText cs ++ ' ' :: '=' :: rest) =
      .ok (([], ⟨String.ofList cs, span⟩), skipBlanks rest) := by
  obtain ⟨c, cs', hhead, hc⟩ := keyText_head cs
  have hskip :
      skipBlanks (keyText cs ++ ' ' :: '=' :: rest) = keyText cs ++ ' ' :: '=' :: rest := by
    rw [hhead, List.cons_append, skipBlanks_cons (isBlank_of_startsKey hc)]
  obtain ⟨fuel, rfl⟩ : ∃ n, fuel = n + 1 :=
    ⟨fuel - 1, by rw [hhead, List.length_cons] at hn; omega⟩
  have hsign : skipBlanks (' ' :: '=' :: rest) = '=' :: rest := by simp [skipBlanks, isBlank]
  refine ⟨⟨keyText cs ++ ' ' :: '=' :: rest, ' ' :: '=' :: rest⟩, ?_⟩
  simp only [keyAndSign, key, keyParts, hskip, keyPart_keyText cs _ hn, hsign, bind, Except.bind,
    pure, Except.pure, List.reverse_cons, List.reverse_nil, List.nil_append]
  rfl

end Keys

section Entries

theorem valueText_head (cs : List Char) :
    ∃ q cs', valueText cs = q :: cs' ∧ (q = '"' ∨ q = '\'') := by
  unfold valueText
  dsimp only
  split_ifs
  · exact ⟨'"', _, rfl, Or.inl rfl⟩
  · exact ⟨'\'', _, rfl, Or.inr rfl⟩
  · exact ⟨'"', _, rfl, Or.inl rfl⟩
  · exact ⟨'\'', _, rfl, Or.inr rfl⟩
  · exact ⟨'"', _, rfl, Or.inl rfl⟩
  · exact ⟨'"', _, rfl, Or.inl rfl⟩

theorem scalar_quoted {fuel : Nat} {q : Char} {cs rest : List Char} {s : String}
    (hq : q = '"' ∨ q = '\'') (h : text fuel (q :: cs) = .ok (s, rest)) :
    scalar fuel (q :: cs) = .ok (.text s, rest) := by
  obtain rfl | rfl := hq <;> rw [scalar, h] <;> rfl

theorem value_quoted {fuel depth : Nat} {q : Char} {cs : List Char} (hq : q = '"' ∨ q = '\'') :
    value fuel (depth + 1) (q :: cs) = spanned (scalar fuel) (q :: cs) := by
  obtain rfl | rfl := hq <;> rfl

theorem value_valueText (fuel : Nat) (cs rest : List Char) (hn : (valueText cs).length ≤ fuel) :
    ∃ span, value fuel depthLimit (valueText cs ++ '\n' :: rest) =
      .ok (.scalar (.text (String.ofList cs)) span, '\n' :: rest) := by
  have hread := text_valueText cs rest hn
  obtain ⟨q, cs', hhead, hq⟩ := valueText_head cs
  rw [hhead, List.cons_append] at hread ⊢
  have hdepth : value fuel depthLimit = value fuel (79 + 1) := rfl
  refine ⟨⟨q :: (cs' ++ '\n' :: rest), '\n' :: rest⟩, ?_⟩
  rw [hdepth, value_quoted hq, spanned, scalar_quoted hq hread]
  rfl

-- The document whose lines so far are those of some entries.
def Draft.ofEntries (es : Entries) : Draft := { current := { entries := es } }

theorem addLine_ofEntries (es : Entries) (k : Key) (item : Item) (h : es.find? k.name = none) :
    (Draft.ofEntries es).addLine [] k item = some (.ofEntries (es ++ [(k, item)])) := by
  simp [Draft.addLine, Draft.ofEntries, addValue, within, h]

-- An entry that holds a name and a text, wherever it was read from.
def IsEntryOf (e : Key × Item) (p : String × String) : Prop :=
  e.1.name = p.1 ∧ ∃ span, e.2 = .scalar (.text p.2) span

theorem find?_eq_none_iff {es : Entries} {name : String} :
    es.find? name = none ↔ ∀ e ∈ es, e.1.name ≠ name := by
  induction es with
  | nil => simp [Entries.find?]
  | cons e es ih =>
      by_cases h : e.1.name = name
      · simp [Entries.find?, h]
      · simp [Entries.find?, h, ih]

theorem line_entryText (fuel : Nat) (p : String × String) (es : Entries) (rest : List Char)
    (hn : (entryText p).length ≤ fuel) (hnew : ∀ e ∈ es, e.1.name ≠ p.1) :
    ∃ e, IsEntryOf e p ∧
      line fuel (.ofEntries es) (entryText p ++ rest) = .ok (.ofEntries (es ++ [e]), rest) := by
  simp only [entryText, List.length_append, List.length_cons] at hn
  obtain ⟨kspan, hkey⟩ := keyAndSign_keyText fuel p.1.toList
    (' ' :: (valueText p.2.toList ++ '\n' :: rest)) (by omega)
  obtain ⟨vspan, hvalue⟩ := value_valueText fuel p.2.toList rest (by omega)
  obtain ⟨q, vs, hvhead, hq⟩ := valueText_head p.2.toList
  have hskip : skipBlanks (' ' :: (valueText p.2.toList ++ '\n' :: rest)) =
      valueText p.2.toList ++ '\n' :: rest := by
    have hblank : isBlank q = false := by
      obtain rfl | rfl := hq <;> rfl
    have hspace : isBlank ' ' = true := rfl
    rw [hvhead, List.cons_append]
    simp [skipBlanks, hspace, hblank]
  have hend : endOfLine ('\n' :: rest) = .ok ((), rest) := rfl
  have hadd := addLine_ofEntries es ⟨p.1, kspan⟩ (.scalar (.text p.2) vspan)
    (find?_eq_none_iff.mpr hnew)
  rw [String.ofList_toList] at hkey hvalue
  obtain ⟨c, ks, hkhead, hc⟩ := keyText_head p.1.toList
  refine ⟨(⟨p.1, kspan⟩, .scalar (.text p.2) vspan), ⟨rfl, vspan, rfl⟩, ?_⟩
  have hassign : assignment fuel (.ofEntries es) (entryText p ++ rest) =
      .ok (.ofEntries (es ++ [(⟨p.1, kspan⟩, .scalar (.text p.2) vspan)]), rest) := by
    rw [hskip] at hkey
    simp only [entryText, List.append_assoc, List.cons_append, List.nil_append, assignment, hkey,
      hvalue, hend, hadd, bind, Except.bind, pure, Except.pure]
  have hbracket : c ≠ '[' := startsKey_ne hc (by decide)
  rw [← hassign]
  simp only [entryText, hkhead, List.cons_append, List.append_assoc]
  unfold line
  split
  · rename_i heq
    exact absurd (List.cons.inj heq).1 hbracket
  · rename_i heq
    exact absurd (List.cons.inj heq).1 hbracket
  · rfl

end Entries

section Documents

theorem lines_eq_line {fuel n : Nat} {d : Draft} {c : Char} (cs : List Char)
    (hc : startsKey c = true) :
    lines fuel (n + 1) d (c :: cs) =
      match line fuel d (c :: cs) with
      | .ok (d, next) => lines fuel n d next
      | .error rest => .error rest := by
  have hcomment : c ≠ '#' := startsKey_ne hc (by decide)
  have hn : c ≠ '\n' := startsKey_ne hc (by decide)
  have hr : c ≠ '\r' := startsKey_ne hc (by decide)
  rw [lines, skipBlanks_cons (isBlank_of_startsKey hc)]
  split
  · rename_i heq
    cases heq
  · rename_i heq
    exact absurd (List.cons.inj heq).1 hcomment
  · cases hend : lineEnd? (c :: cs) with
    | none => rfl
    | some rest =>
        rw [lineEnd?_cons_eq_none hn hr] at hend
        cases hend

theorem entryText_head (p : String × String) :
    ∃ c cs, entryText p = c :: cs ∧ startsKey c = true := by
  obtain ⟨c, cs, hhead, hc⟩ := keyText_head p.1.toList
  exact ⟨c, _, by rw [entryText, hhead]; rfl, hc⟩

-- The names so far and those to come are all different, so every line adds an entry.
theorem lines_entries (fuel n : Nat) (ps : List (String × String)) (es : Entries)
    (hn : ps.length < n) (hfuel : (ps.flatMap entryText).length ≤ fuel)
    (hnodup : (es.map (·.1.name) ++ ps.map Prod.fst).Nodup) :
    ∃ new, List.Forall₂ IsEntryOf new ps ∧
      lines fuel n (.ofEntries es) (ps.flatMap entryText) = .ok (.ofEntries (es ++ new)) := by
  induction ps generalizing n es with
  | nil =>
      obtain ⟨n, rfl⟩ : ∃ m, n = m + 1 := ⟨n - 1, by omega⟩
      exact ⟨[], .nil, by rw [List.append_nil]; rfl⟩
  | cons p ps ih =>
      obtain ⟨n, rfl⟩ : ∃ m, n = m + 1 := ⟨n - 1, by omega⟩
      simp only [List.length_cons, List.flatMap_cons, List.length_append] at hn hfuel
      have hnew : ∀ e ∈ es, e.1.name ≠ p.1 := fun e he heq =>
        (List.nodup_append.mp hnodup).2.2 _ (List.mem_map_of_mem he) p.1 (by simp) heq
      obtain ⟨e, hentry, hline⟩ := line_entryText fuel p es (ps.flatMap entryText)
        (by omega) hnew
      obtain ⟨new, hall, hlines⟩ := ih n (es ++ [e]) (by omega) (by omega)
        (by simpa [hentry.1] using hnodup)
      obtain ⟨c, cs, hhead, hc⟩ := entryText_head p
      refine ⟨e :: new, .cons hentry hall, ?_⟩
      rw [hhead, List.cons_append] at hline
      rw [List.flatMap_cons, hhead, List.cons_append, lines_eq_line _ hc, hline]
      simpa using hlines

theorem length_le_length_entries (ps : List (String × String)) :
    ps.length ≤ (ps.flatMap entryText).length := by
  induction ps with
  | nil => simp
  | cons p ps ih =>
      obtain ⟨c, cs, hhead, -⟩ := entryText_head p
      simp only [List.flatMap_cons, hhead, List.length_append, List.length_cons]
      omega

theorem dropMark_entries (ps : List (String × String)) :
    dropMark (ps.flatMap entryText) = ps.flatMap entryText := by
  cases ps with
  | nil => rfl
  | cons p ps =>
      obtain ⟨c, cs, hhead, hc⟩ := entryText_head p
      have hmark : c.toNat ≠ 0xFEFF := by
        simp only [startsKey, Bool.or_eq_true, beq_iff_eq] at hc
        obtain (rfl | rfl) | hc := hc
        · decide
        · decide
        · have := toNat_lt_of_isBareKeyChar hc
          omega
      rw [List.flatMap_cons, hhead, List.cons_append, dropMark, if_neg hmark]

theorem mapM_wantText {whole : List Char} {es : Entries} {ps : List (String × String)}
    (h : List.Forall₂ IsEntryOf es ps) :
    (es.mapM fun e => return (e.1.name, ← wantText "a string" whole e)) =
      (.ok ps : Except Error (List (String × String))) := by
  induction h with
  | nil => rfl
  | @cons e p es ps he _ ih =>
      obtain ⟨hname, span, hitem⟩ := he
      have hwant : wantText "a string" whole e = .ok p.2 := by rw [wantText, hitem]
      rw [List.mapM_cons, ih, hwant, hname]
      rfl

theorem document_entries (ps : List (String × String)) (hnodup : (ps.map Prod.fst).Nodup) :
    ∃ es, List.Forall₂ IsEntryOf es ps ∧ document (ps.flatMap entryText) = .ok es := by
  have hlen := length_le_length_entries ps
  obtain ⟨es, hall, hlines⟩ := lines_entries ((ps.flatMap entryText).length + 1)
    ((ps.flatMap entryText).length + 1) ps [] (by omega) (by omega) (by simpa using hnodup)
  refine ⟨es, hall, ?_⟩
  have hstart : ({} : Draft) = .ofEntries [] := rfl
  simp only [document, dropMark_entries, hstart, hlines]
  rfl

-- A table of texts with different names reads back, whatever its names and texts are.
theorem readTexts_render_entries (ps : List (String × String)) (hnodup : (ps.map Prod.fst).Nodup) :
    readTexts (render ps) = .ok ps := by
  obtain ⟨es, hall, hdoc⟩ := document_entries ps hnodup
  simp only [readTexts, read, render, String.toList_ofList, hdoc, bind, Except.bind]
  exact mapM_wantText hall

end Documents

end ProfileSession.Toml
