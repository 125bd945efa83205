import ProfileSession.Config.Basic
import ProfileSession.Cookie.Text
import ProfileSession.Proofs.Text.Split

namespace ProfileSession

namespace CookieText

structure IsName (name : String) : Prop where
  nonempty : name ≠ ""
  plain : ∀ c ∈ name.toList, c ≠ '=' ∧ c ≠ ';' ∧ Text.isBlank c = false

-- An equals sign may stand in a value. The first one ends the name.
structure IsValue (value : String) : Prop where
  closed : ';' ∉ value.toList
  first : ∀ c ∈ value.toList.head?, Text.isBlank c = false
  last : ∀ c ∈ value.toList.getLast?, Text.isBlank c = false

-- A configuration is refused if a cookie could not have the name.
theorem isName_of_validate {c : Config} (h : c.validate = .ok ()) : IsName c.handoffCookie := by
  obtain ⟨-, hne, hchars⟩ := c.validate_eq_ok_iff.mp h
  refine ⟨hne, fun d hd => ?_⟩
  have hall : c.handoffCookie.toList.any Config.refusedInCookieName = false :=
    String.contains_bool_eq.symm.trans hchars
  have hallowed := List.any_eq_false.mp hall d hd
  simp only [Config.refusedInCookieName, Bool.or_eq_true, beq_iff_eq, not_or,
    Bool.not_eq_true] at hallowed
  obtain ⟨⟨⟨⟨hblank, -⟩, hequals⟩, hsemicolon⟩, -⟩ := hallowed
  exact ⟨hequals, hsemicolon, hblank⟩

section Parse

variable {name value : String} (hname : IsName name) (hvalue : IsValue value)

include hname hvalue

theorem nameAndValue_written :
    nameAndValue (name.toList ++ '=' :: value.toList) = (name.toList, some value.toList) := by
  have hequals : '=' ∉ name.toList := fun h => (hname.plain _ h).1 rfl
  rw [nameAndValue, Text.cut?_append hequals]
  dsimp only
  rw [Text.trim_of_all_not fun c hc => (hname.plain c hc).2.2,
    Text.trim_of_edges hvalue.first hvalue.last]

-- What follows the value are attributes.
theorem parse_of_pieces {s : String} {parts : List (List Char)}
    (h : Text.pieces (· == ';') s.toList = (name.toList ++ '=' :: value.toList) :: parts) :
    parse s = .ok (parts.foldl addPart { name, value }) := by
  have hfull : name.toList.isEmpty = false := by simpa using hname.nonempty
  unfold parse
  rw [h]
  dsimp only
  rw [nameAndValue_written hname hvalue]
  simp only [hfull, Bool.false_eq_true, ite_false, String.ofList_toList]

theorem no_semicolon : ∀ c ∈ name.toList ++ '=' :: value.toList, (c == ';') = false := by
  intro c hc
  refine beq_false_of_ne fun heq => ?_
  subst heq
  rcases List.mem_append.mp hc with hc | hc
  · exact (hname.plain _ hc).2.1 rfl
  · rcases List.mem_cons.mp hc with hc | hc
    · exact absurd hc (by decide)
    · exact hvalue.closed hc

theorem parse_written : parse (name ++ "=" ++ value) = .ok { name, value } := by
  have htext : (name ++ "=" ++ value).toList = name.toList ++ '=' :: value.toList := by simp
  have hpieces : Text.pieces (· == ';') (name ++ "=" ++ value).toList =
      [name.toList ++ '=' :: value.toList] := by
    rw [htext, Text.pieces_of_all_not (no_semicolon hname hvalue)]
  exact parse_of_pieces hname hvalue hpieces

theorem parse_written_path :
    parse (name ++ "=" ++ value ++ "; Path=/") = .ok { name, value, path := some "/" } := by
  have htext : (name ++ "=" ++ value ++ "; Path=/").toList =
      (name.toList ++ '=' :: value.toList) ++ ';' :: " Path=/".toList := by
    simp
  have hpath : Text.pieces (· == ';') " Path=/".toList = [" Path=/".toList] := by
    decide +kernel
  have hpieces : Text.pieces (· == ';') (name ++ "=" ++ value ++ "; Path=/").toList =
      [name.toList ++ '=' :: value.toList, " Path=/".toList] := by
    rw [htext, Text.pieces_append (no_semicolon hname hvalue) (by decide), hpath]
  exact parse_of_pieces hname hvalue hpieces

end Parse

end CookieText

end ProfileSession
