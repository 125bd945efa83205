import Mathlib.Data.String.Basic
import ProfileSession.Storage.Items

namespace ProfileSession.Items

section Lookup

variable {α β : Type} [BEq α] [LawfulBEq α]

-- Taking all entries of one name away changes what is looked up under that name only.
theorem lookup_filter_ne {name other : α} (es : List (α × β)) (h : other ≠ name) :
    (es.filter fun e => e.1 != name).lookup other = es.lookup other := by
  induction es with
  | nil => rfl
  | cons e es ih =>
      obtain ⟨first, b⟩ := e
      by_cases he : first = name
      · have hne : (other == first) = false := beq_eq_false_iff_ne.mpr (he ▸ h)
        simp [List.lookup_cons, he, ih, he ▸ hne]
      · simp [List.lookup_cons, he, ih]

theorem lookup_filter_self {name : α} (es : List (α × β)) :
    (es.filter fun e => e.1 != name).lookup name = none := by
  induction es with
  | nil => rfl
  | cons e es ih =>
      obtain ⟨first, b⟩ := e
      by_cases he : first = name
      · simp [he, ih]
      · have hne : (name == first) = false := beq_eq_false_iff_ne.mpr (Ne.symm he)
        simp [List.lookup_cons, he, hne, ih]

end Lookup

theorem get?_erase (name key : String) (items : Items) :
    get? key (items.erase name) = if key = name then none else get? key items := by
  unfold get? erase
  split_ifs with h
  · subst h
    exact lookup_filter_self items
  · exact lookup_filter_ne items h

-- Of two values for one name, the last one stays.
theorem insert_insert (name old new : String) (items : Items) :
    (items.insert name old).insert name new = items.insert name new := by
  induction items with
  | nil => simp [insert]
  | cons e es ih =>
      by_cases hname : name = e.1
      · simp [insert, hname]
      · by_cases hlt : name < e.1
        · simp [insert, hname, hlt]
        · simp [insert, hname, hlt, ih]

theorem erase_insert (name text : String) (items : Items) :
    (items.insert name text).erase name = items.erase name := by
  induction items with
  | nil => simp [insert, erase]
  | cons e es ih =>
      by_cases hname : name = e.1
      · simp [insert, erase, hname]
      · by_cases hlt : name < e.1
        · simp [insert, erase, hname, hlt]
        · simp only [insert, if_neg hname, if_neg hlt]
          unfold erase at ih ⊢
          rw [List.filter_cons, List.filter_cons, ih]

-- The names grow, so no name comes twice.
def Sorted (items : Items) : Prop := items.Pairwise fun a b => a.1 < b.1

theorem Sorted.nodup_names {items : Items} (h : items.Sorted) : (items.map Prod.fst).Nodup := by
  rw [List.nodup_iff_pairwise_ne, List.pairwise_map]
  exact h.imp fun hlt => hlt.ne

theorem mem_insert {name text : String} {items : Items} {e : String × String}
    (h : e ∈ items.insert name text) : e.1 = name ∨ e ∈ items := by
  induction items with
  | nil =>
      simp only [insert, List.mem_singleton] at h
      exact Or.inl (by rw [h])
  | cons first rest ih =>
      simp only [insert] at h
      split_ifs at h
      · obtain rfl | h := List.mem_cons.mp h
        · exact Or.inl rfl
        · exact Or.inr (List.mem_cons_of_mem _ h)
      · obtain rfl | h := List.mem_cons.mp h
        · exact Or.inl rfl
        · exact Or.inr h
      · obtain rfl | h := List.mem_cons.mp h
        · exact Or.inr (by simp)
        · exact (ih h).imp id (List.mem_cons_of_mem _)

theorem mem_insert_self (name text : String) (items : Items) :
    (name, text) ∈ items.insert name text := by
  induction items with
  | nil => exact List.mem_singleton_self _
  | cons e es ih =>
      simp only [insert]
      split_ifs
      · exact List.mem_cons_self
      · exact List.mem_cons_self
      · exact List.mem_cons_of_mem _ ih

theorem Sorted.insert {items : Items} (h : items.Sorted) (name text : String) :
    (items.insert name text).Sorted := by
  induction items with
  | nil => exact List.pairwise_singleton _ _
  | cons first rest ih =>
      obtain ⟨hfirst, hrest⟩ := List.pairwise_cons.mp h
      simp only [Items.insert]
      split_ifs with heq hlt
      · exact List.pairwise_cons.mpr ⟨fun e he => by rw [heq]; exact hfirst e he, hrest⟩
      · refine List.pairwise_cons.mpr ⟨fun e he => ?_, h⟩
        obtain rfl | he := List.mem_cons.mp he
        · exact hlt
        · exact hlt.trans (hfirst e he)
      · refine List.pairwise_cons.mpr ⟨fun e he => ?_, ih hrest⟩
        obtain hname | he := mem_insert he
        · rw [hname]
          exact lt_of_le_of_ne (not_lt.mp hlt) (Ne.symm heq)
        · exact hfirst e he

theorem Sorted.erase {items : Items} (h : items.Sorted) (name : String) :
    (items.erase name).Sorted :=
  h.filter _

theorem sorted_ofEntries (es : List (String × String)) : (ofEntries es).Sorted := by
  have hfold : ∀ (es : List (String × String)) (items : Items), items.Sorted →
      (es.foldl (fun items e => items.insert e.1 e.2) items).Sorted := by
    intro es
    induction es with
    | nil => exact fun _ h => h
    | cons e es ih => exact fun items h => ih _ (h.insert e.1 e.2)
  exact hfold es [] .nil

-- A name greater than all others goes to the end.
theorem insert_eq_append {name text : String} {items : Items} (h : ∀ e ∈ items, e.1 < name) :
    items.insert name text = items ++ [(name, text)] := by
  induction items with
  | nil => rfl
  | cons first rest ih =>
      have hlt := h first (by simp)
      rw [insert, if_neg hlt.ne', if_neg hlt.asymm, ih fun e he => h e (List.mem_cons_of_mem _ he)]
      rfl

theorem Sorted.ofEntries_eq {items : Items} (h : items.Sorted) : ofEntries items = items := by
  have hfold : ∀ (rest front : Items), (front ++ rest).Sorted →
      rest.foldl (fun items e => items.insert e.1 e.2) front = front ++ rest := by
    intro rest
    induction rest with
    | nil => intro front _; simp
    | cons e rest ih =>
        intro front hs
        have hlt : ∀ d ∈ front, d.1 < e.1 := fun d hd =>
          (List.pairwise_append.mp hs).2.2 d hd e (by simp)
        rw [List.foldl_cons, insert_eq_append hlt, ih _ (by simpa using hs)]
        simp
  exact hfold items [] h

end ProfileSession.Items
