import Mathlib.Tactic.Common
import ProfileSession.Program.Run

namespace ProfileSession

theorem toList_loop (bytes : ByteArray) (i : Nat) (front : List UInt8) :
    ByteArray.toList.loop bytes i front = front.reverse ++ bytes.data.toList.drop i := by
  induction i, front using ByteArray.toList.loop.induct bytes with
  | case1 i front hi ih =>
      have hlength : i < bytes.data.toList.length := hi
      have hget : bytes.get! i = bytes.data.toList[i] := getElem!_pos bytes.data i hi
      rw [ByteArray.toList.loop.eq_1, if_pos hi, ih, hget, List.drop_eq_getElem_cons hlength,
        List.reverse_cons, List.append_assoc, List.singleton_append]
  | case2 i front hi =>
      have hlength : bytes.data.toList.length ≤ i := Nat.le_of_not_lt hi
      rw [ByteArray.toList.loop.eq_1, if_neg hi, List.drop_eq_nil_of_le hlength, List.append_nil]

theorem toList_eq_data (bytes : ByteArray) : bytes.toList = bytes.data.toList := by
  rw [ByteArray.toList, toList_loop]
  rfl

namespace Text

theorem trim_append_blank {b : Char} (hb : isBlank b = true) (cs : List Char) :
    trim (cs ++ [b]) = trim cs := by
  have hright : ∀ ds : List Char, trimRight (ds ++ [b]) = trimRight ds := by
    intro ds
    rw [trimRight, List.reverse_append, List.reverse_singleton, List.singleton_append,
      List.dropWhile_cons_of_pos hb]
    rfl
  unfold trim trimLeft
  rw [List.dropWhile_append]
  by_cases hempty : (cs.dropWhile isBlank).isEmpty = true
  · rw [if_pos hempty, List.dropWhile_cons_of_pos hb, List.isEmpty_iff.mp hempty]
    rfl
  · rw [if_neg hempty, hright]

namespace Utf8

-- A line break is a character of one byte, so the place before it is one between characters.
theorem isValidUTF8_append_break (bytes : ByteArray) :
    (bytes ++ ⟨#[10]⟩).IsValidUTF8 ↔ bytes.IsValidUTF8 := by
  constructor
  · intro h
    let s : String := ⟨bytes ++ ⟨#[10]⟩, h⟩
    have hsize : (bytes ++ ⟨#[10]⟩).size = bytes.size + 1 := ByteArray.size_append
    have hin : bytes.size < (bytes ++ ⟨#[10]⟩).size := by omega
    have hlt : (⟨bytes.size⟩ : String.Pos.Raw) < s.rawEndPos := String.Pos.Raw.lt_iff.mpr hin
    have hbyte : s.getUTF8Byte ⟨bytes.size⟩ hlt = 10 := by
      show (bytes ++ ⟨#[10]⟩)[bytes.size] = 10
      rw [ByteArray.getElem_append_right (Nat.le_refl _)]
      simp only [Nat.sub_self]
      rfl
    have hplace : String.Pos.Raw.IsValid s ⟨bytes.size⟩ := by
      rw [String.Pos.Raw.isValid_iff_isUTF8FirstByte]
      exact Or.inr ⟨hlt, by rw [hbyte]; decide⟩
    have hfront : s.toByteArray.extract 0 bytes.size = bytes :=
      ByteArray.extract_append_eq_left rfl
    rw [← hfront]
    exact hplace.isValidUTF8_extract_zero
  · intro h
    exact h.append "\n".isValidUTF8

theorem fromUTF8?_append_break (bytes : ByteArray) :
    String.fromUTF8? (bytes ++ ⟨#[10]⟩) = (String.fromUTF8? bytes).map (· ++ "\n") := by
  unfold String.fromUTF8?
  by_cases h : bytes.IsValidUTF8
  · rw [dif_pos ((isValidUTF8_append_break bytes).mpr h), dif_pos h]
    rfl
  · rw [dif_neg (fun hb => h ((isValidUTF8_append_break bytes).mp hb)), dif_neg h]
    rfl

-- What one more byte, a line break, does to the reading of a character: nothing, unless the
-- character is cut short by the end.
inductive Broken (most : Nat) : Front → Front → Prop
  | char (c : Char) {more : Nat} (h : more ≤ most) : Broken most (.char c more) (.char c more)
  | fault (more : Nat) : Broken most (.fault more) (.fault more)
  | cut (more : Nat) : Broken most .cut (.fault more)

theorem tails_broken (n had need : Nat) (bs : List UInt8) :
    Broken (had + bs.length) (tails n had need bs) (tails n had need (bs ++ [10])) := by
  induction need generalizing n had bs with
  | zero => exact .char _ (Nat.le_add_right _ _)
  | succ need ih =>
      cases bs with
      | nil => exact .cut had
      | cons b bs =>
          rw [List.cons_append, tails, tails]
          split_ifs
          · rw [List.length_cons, Nat.add_comm bs.length, ← Nat.add_assoc]
            exact ih _ (had + 1) bs
          · exact .fault had

theorem lead?_low {b lo hi : UInt8} {need : Nat} (h : lead? b = some (need, lo, hi)) :
    10 < lo := by
  unfold lead? at h
  split_ifs at h <;> cases h <;> decide

theorem front_broken (b : UInt8) (bs : List UInt8) :
    Broken bs.length (front b bs) (front b (bs ++ [10])) := by
  unfold front
  split_ifs with hascii
  · exact .char _ (Nat.zero_le _)
  · cases hlead : lead? b with
    | none => exact .fault 0
    | some range =>
        obtain ⟨need, lo, hi⟩ := range
        cases bs with
        | nil =>
            have hlow : ¬lo ≤ 10 := UInt8.not_le.mpr (lead?_low hlead)
            simp only [List.nil_append, decide_eq_false hlow, Bool.false_and, Bool.false_eq_true,
              ite_false]
            exact .cut 0
        | cons t ts =>
            dsimp only [List.cons_append]
            split_ifs
            · rw [List.length_cons, Nat.add_comm]
              exact tails_broken _ 1 (need - 1) ts
            · exact .fault 0

-- A line break does not make text of bytes that are none.
theorem fault?_append_break (i : Nat) (bs : List UInt8) :
    (fault? i (bs ++ [10])).isNone = (fault? i bs).isNone := by
  induction i, bs using fault?.induct with
  | case1 i =>
      rw [List.nil_append, fault?, fault?]
      show (fault? _ []).isNone = _
      rw [fault?]
  | case2 i b bs c more hfront ih =>
      have hbroken := front_broken b bs
      rw [hfront] at hbroken
      rw [List.cons_append, fault?, fault?, hfront]
      cases hmore : front b (bs ++ [10]) with
      | char c' more' =>
          rw [hmore] at hbroken
          cases hbroken with
          | char _ hle =>
              dsimp only
              rw [List.drop_append_of_le_length hle, ih]
      | fault more' =>
          rw [hmore] at hbroken
          cases hbroken
      | cut =>
          rw [hmore] at hbroken
          cases hbroken
  | case3 i b bs more hfront =>
      have hbroken := front_broken b bs
      rw [hfront] at hbroken
      rw [List.cons_append, fault?, fault?, hfront]
      generalize front b (bs ++ [10]) = other at hbroken
      cases hbroken
      rfl
  | case4 i b bs hfront =>
      have hbroken := front_broken b bs
      rw [hfront] at hbroken
      rw [List.cons_append, fault?, fault?, hfront]
      generalize front b (bs ++ [10]) = other at hbroken
      cases hbroken
      rfl

end Utf8

end Text

namespace Program

-- A line without the break at its end.
def bare (line : List UInt8) : List UInt8 := line.takeWhile (· != 10)

-- The lines of an input, without the breaks that end them.
def texts (input : ByteArray) : List (List UInt8) := (lines input.toList).map bare

theorem eq_bare_of_mem_lines {bytes line : List UInt8} (h : line ∈ lines bytes) :
    line = bare line ∨ line = bare line ++ [10] := by
  induction bytes generalizing line with
  | nil => cases h
  | cons b bs ih =>
      unfold lines at h
      split_ifs at h with hb
      · rcases List.mem_cons.mp h with rfl | hrest
        · subst hb
          exact Or.inr rfl
        · exact ih hrest
      · have hb' : (b != 10) = true := bne_iff_ne.mpr hb
        cases hlines : lines bs with
        | nil =>
            rw [hlines] at h
            rw [List.mem_singleton.mp h]
            simp [bare, hb']
        | cons l ls =>
            rw [hlines] at h ih
            rcases List.mem_cons.mp h with rfl | hrest
            · have hbare : bare (b :: l) = b :: bare l := List.takeWhile_cons_of_pos hb'
              rw [hbare, List.cons_append, List.cons.injEq, List.cons.injEq]
              exact (ih List.mem_cons_self).imp (⟨rfl, ·⟩) (⟨rfl, ·⟩)
            · exact ih (List.mem_cons_of_mem _ hrest)

-- What a line asks for, if it is text.
def commandOf? (line : List UInt8) : Option Command :=
  (String.fromUTF8? ⟨line.toArray⟩).map Command.ofLine

def commandWords : List String := ["r", "refresh", "l", "logout", "q", "quit"]

-- Whether a line is text that is no command, blanks at its ends apart.
def isIdle (line : List UInt8) : Bool :=
  (String.fromUTF8? ⟨line.toArray⟩).any fun s =>
    !commandWords.contains (String.ofList (Text.trim s.toList))

theorem Command.ofLine_eq_nothing {s : String}
    (h : commandWords.contains (String.ofList (Text.trim s.toList)) = false) :
    ofLine s = .nothing := by
  unfold ofLine
  split <;> rename_i hword <;> first | rfl | (rw [hword] at h; revert h; decide)

theorem commandOf?_of_isIdle {line : List UInt8} (h : isIdle line = true) :
    commandOf? line = some .nothing := by
  unfold isIdle at h
  unfold commandOf?
  cases htext : String.fromUTF8? ⟨line.toArray⟩ with
  | none =>
      rw [htext] at h
      cases h
  | some s =>
      rw [htext, Option.any_some, Bool.not_eq_true'] at h
      rw [Option.map_some, Command.ofLine_eq_nothing h]

theorem bytes_append_break (line : List UInt8) :
    (⟨(line ++ [10]).toArray⟩ : ByteArray) = ⟨line.toArray⟩ ++ ⟨#[10]⟩ := by
  rw [ByteArray.ext_iff, ByteArray.data_append, ← List.append_toArray]

theorem ofLine_append_break (s : String) : Command.ofLine (s ++ "\n") = Command.ofLine s := by
  have htrim : Text.trim (s ++ "\n").toList = Text.trim s.toList := by
    rw [String.toList_append]
    exact Text.trim_append_blank (by decide) s.toList
  unfold Command.ofLine
  rw [htrim]

end Program

end ProfileSession
