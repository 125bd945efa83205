import ProfileSession.Proofs.Storage.Limit
import ProfileSession.Storage.Basic

namespace ProfileSession.Storage

-- In memory and in files.
theorem getItem_removeItem {s s' : Storage} {key : String}
    (h : s.removeItem key = (.ok (), s')) : s'.getItem key = none := by
  obtain ⟨backing, refusesSet, refusesRemove⟩ := s
  cases refusesRemove with
  | some e => cases h
  | none =>
      cases backing with
      | memory items =>
          cases h
          exact (Items.get?_erase key key items).trans (if_pos rfl)
      | file f d =>
          cases hremove : f.removeItem key d with
          | mk r d' =>
              simp only [removeItem, write, hremove, Prod.mk.injEq] at h
              obtain ⟨rfl, rfl⟩ := h
              exact FileStorage.getItem_removeItem hremove

-- A change that fails leaves what can be read.
theorem getItem_of_write_error {s s' : Storage} {inMemory change : Items → Items} {e : Error}
    (h : s.write inMemory (fun f => f.update change) = (.error e, s')) (other : String) :
    s'.getItem other = s.getItem other := by
  obtain ⟨backing, refusesSet, refusesRemove⟩ := s
  cases backing with
  | memory items => cases h
  | file f d =>
      cases hupdate : f.update change d with
      | mk r d' =>
          simp only [write, hupdate, Prod.mk.injEq] at h
          obtain ⟨rfl, rfl⟩ := h
          exact FileStorage.getItem_of_update_error hupdate other

-- A change that is refused is one that fails.
theorem getItem_of_removeItem_error {s s' : Storage} {key : String} {e : Error}
    (h : s.removeItem key = (.error e, s')) (other : String) :
    s'.getItem other = s.getItem other := by
  unfold removeItem at h
  cases hrefuses : s.refusesRemove with
  | some f =>
      rw [hrefuses] at h
      cases h
      rfl
  | none =>
      rw [hrefuses] at h
      exact getItem_of_write_error h other

theorem getItem_of_setItem_error {s s' : Storage} {key text : String} {e : Error}
    (h : s.setItem key text = (.error e, s')) (other : String) :
    s'.getItem other = s.getItem other := by
  unfold setItem at h
  cases hrefuses : s.refusesSet with
  | some f =>
      rw [hrefuses] at h
      cases h
      rfl
  | none =>
      rw [hrefuses] at h
      exact getItem_of_write_error h other

-- A file has room for one more text as long as it is read with it.
def Fits (s : Storage) (key text : String) : Prop :=
  match s.backing with
  | .memory _ => True
  | .file f d => ∀ items, f.load d = .ok items →
      (Toml.render (items.insert key text)).utf8ByteSize ≤ FileStorage.sizeLimit

-- What was set is read, and all else as before.
theorem getItem_setItem {s s' : Storage} {key text : String}
    (h : s.setItem key text = (.ok (), s')) (hfits : s.Fits key text) (other : String) :
    s'.getItem other = if other = key then some text else s.getItem other := by
  obtain ⟨backing, refusesSet, refusesRemove⟩ := s
  cases refusesSet with
  | some e => cases h
  | none =>
      cases backing with
      | memory items =>
          cases h
          exact Items.get?_insert key other text items
      | file f d =>
          cases hset : f.setItem key text d with
          | mk r d' =>
              simp only [setItem, write, hset, Prod.mk.injEq] at h
              obtain ⟨rfl, rfl⟩ := h
              rcases FileStorage.update_cases hset with ⟨e, -, he, -⟩ | ⟨items, hload, hsaves⟩
              · cases he
              · have hsorted := (FileStorage.sorted_of_load hload).insert key text
                have hloads := hsaves.left.2.2 (hfits items hload) hsorted
                simp only [getItem, FileStorage.getItem, hload, hloads]
                exact Items.get?_insert key other text items

-- A file that has grown over its limit keeps nothing.
theorem getItem_of_outgrown {s s' : Storage} {key text : String}
    (h : s.setItem key text = (.ok (), s')) (hlarge : ¬s.Fits key text) (other : String) :
    s'.getItem other = none := by
  obtain ⟨backing, refusesSet, refusesRemove⟩ := s
  cases refusesSet with
  | some e => cases h
  | none =>
      cases backing with
      | memory items => exact absurd trivial hlarge
      | file f d =>
          cases hset : f.setItem key text d with
          | mk r d' =>
              simp only [setItem, write, hset, Prod.mk.injEq] at h
              obtain ⟨rfl, rfl⟩ := h
              rcases FileStorage.update_cases hset with ⟨e, -, he, -⟩ | ⟨items, hload, hsaves⟩
              · cases he
              · obtain ⟨hwritable, hcontents, -⟩ := hsaves.left
                have hsize : FileStorage.sizeLimit <
                    (Toml.render (items.insert key text)).utf8ByteSize := by
                  by_contra hsmall
                  refine hlarge fun held hheld => ?_
                  cases hload.symm.trans hheld
                  exact Nat.le_of_not_lt hsmall
                exact (FileStorage.unusable_of_contents hwritable.path hcontents
                  hsize).get other

-- A value that is larger than the limit makes the file outgrow it, and is written all the same.
theorem outgrown_of_large {path : FilePath} {d : Directory} {items : Items}
    {key value : String} (h : FileStorage.Writable ⟨path⟩ d)
    (hload : FileStorage.load ⟨path⟩ d = .ok items)
    (hvalue : FileStorage.sizeLimit < value.utf8ByteSize) :
    ((ofFile path d).setItem key value).1 = .ok () ∧ ¬(ofFile path d).Fits key value := by
  obtain ⟨d', size, hset, -⟩ := @FileStorage.setItem_large _ _ _ key _ h hload hvalue
  constructor
  · simp only [setItem, ofFile, write, hset]
  · intro hfits
    have hsize := Toml.utf8ByteSize_le_render (Items.mem_insert_self key value items)
    exact absurd (hfits items hload) (Nat.not_le_of_lt (hvalue.trans_le hsize))

-- What is read under a key that was removed: nothing, or what was there before.
theorem getItem_removeItem_cases (s : Storage) (key : String) :
    ((s.removeItem key).1 = .ok () ∧ (s.removeItem key).2.getItem key = none) ∨
      ∃ e, (s.removeItem key).1 = .error e ∧
        (s.removeItem key).2.getItem key = s.getItem key := by
  cases hremove : s.removeItem key with
  | mk r s' =>
      cases r with
      | ok u => exact Or.inl ⟨rfl, getItem_removeItem hremove⟩
      | error e => exact Or.inr ⟨e, rfl, getItem_of_removeItem_error hremove key⟩

-- A storage after some removals of one key.
def removed (key : String) (s : Storage) : Nat → Storage
  | 0 => s
  | n + 1 => removed key (s.removeItem key).2 n

theorem removed_add (key : String) (s : Storage) (m n : Nat) :
    s.removed key (m + n) = (s.removed key m).removed key n := by
  induction m generalizing s with
  | zero => rw [Nat.zero_add, removed]
  | succ m ih =>
      rw [Nat.succ_add]
      exact ih (s.removeItem key).2

theorem removed_succ (key : String) (s : Storage) (n : Nat) :
    s.removed key (n + 1) = ((s.removed key n).removeItem key).2 :=
  removed_add key s n 1

-- As many removals of the key succeed.
def Removes (s : Storage) (key : String) (n : Nat) : Prop :=
  ∀ m < n, ((s.removed key m).removeItem key).1 = .ok ()

theorem getItem_removed {s : Storage} {key : String} {n : Nat} (h : s.Removes key (n + 1)) :
    (s.removed key (n + 1)).getItem key = none := by
  rw [removed_succ]
  exact getItem_removeItem (Prod.ext (h n n.lt_succ_self) rfl)

theorem removes_ofMemory (items : Items) (key : String) (n : Nat) :
    (ofMemory items).Removes key n := by
  have hmemory : ∀ m, ∃ left, (ofMemory items).removed key m = ofMemory left := by
    intro m
    induction m with
    | zero => exact ⟨items, rfl⟩
    | succ m ih =>
        obtain ⟨left, hleft⟩ := ih
        exact ⟨left.erase key, by rw [removed_succ, hleft]; rfl⟩
  intro m _
  obtain ⟨left, hleft⟩ := hmemory m
  rw [hleft]
  rfl

end ProfileSession.Storage
