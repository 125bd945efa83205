import Mathlib.Data.List.Infix
import ProfileSession.Proofs.Storage.Changes
import ProfileSession.Session.Basic

namespace ProfileSession

namespace Session.Event

def isWrite : Event → Bool
  | set _ _ => true
  | remove _ => true
  | navigate _ => false

-- The items of a table after an event.
def change : Event → Items → Items
  | set key text => Items.insert key text
  | remove key => Items.erase key
  | navigate _ => id

-- What is read under a key after an event, where something or nothing was read before.
def textAfter (key : String) (held : Option String) : Event → Option String
  | set written text => if key = written then some text else held
  | remove written => if key = written then none else held
  | navigate _ => held

end Session.Event

namespace Storage

open Session (Event)

-- What a storage makes of an event.
def perform (s : Storage) : Event → Except Error Unit × Storage
  | .set key text => s.setItem key text
  | .remove key => s.removeItem key
  | .navigate _ => (.ok (), s)

def performAll (s : Storage) (events : List Event) : Storage :=
  events.foldl (fun s e => (s.perform e).2) s

-- A write is made as in a map: it succeeds, and is all that is changed.
structure Makes (s : Storage) (e : Event) : Prop where
  done : (s.perform e).1 = .ok ()
  read (key : String) : (s.perform e).2.getItem key = e.textAfter key (s.getItem key)

-- The storage is a map for some events, one after the other. No more is asked of it, so a file that
-- has room for these writes is one, and need not have room for any others.
def IsMapFor (s : Storage) : List Event → Prop
  | [] => True
  | e :: events => s.Makes e ∧ (s.perform e).2.IsMapFor events

section Events

variable {s : Storage} {events more : List Event}

theorem performAll_append :
    s.performAll (events ++ more) = (s.performAll events).performAll more := List.foldl_append

theorem isMapFor_append :
    s.IsMapFor (events ++ more) ↔ s.IsMapFor events ∧ (s.performAll events).IsMapFor more := by
  induction events generalizing s with
  | nil => exact ⟨fun h => ⟨trivial, h⟩, And.right⟩
  | cons e events ih =>
      rw [List.cons_append, IsMapFor, ih, ← and_assoc]
      rfl

theorem makes_navigate (target : Url) : s.Makes (.navigate target) := ⟨rfl, fun _ => rfl⟩

-- Only the writes count.
theorem performAll_writes : s.performAll (events.filter Event.isWrite) = s.performAll events := by
  induction events generalizing s with
  | nil => rfl
  | cons e events ih => cases e <;> exact ih

theorem IsMapFor.getItem (h : s.IsMapFor events) (key : String) :
    (s.performAll events).getItem key = events.foldl (Event.textAfter key) (s.getItem key) := by
  induction events generalizing s with
  | nil => rfl
  | cons e events ih =>
      obtain ⟨hmakes, hrest⟩ := h
      have hlater := ih hrest
      rw [hmakes.read key] at hlater
      exact hlater

end Events

-- In memory, any events are those of a map.
theorem isMapFor_ofMemory (items : Items) (events : List Event) :
    (ofMemory items).IsMapFor events := by
  induction events generalizing items with
  | nil => trivial
  | cons e events ih =>
      cases e with
      | set key text =>
          exact ⟨⟨rfl, fun other => Items.get?_insert key other text items⟩, ih _⟩
      | remove key => exact ⟨⟨rfl, fun other => Items.get?_erase key other items⟩, ih _⟩
      | navigate target => exact ⟨makes_navigate target, ih items⟩

-- Nor does it matter what was written before.
theorem isMapFor_performAll_ofMemory (items : Items) (events more : List Event) :
    ((ofMemory items).performAll events).IsMapFor more :=
  (isMapFor_append.mp (isMapFor_ofMemory items (events ++ more))).2

section File

variable {path : FilePath} {d d' : Directory} {items : Items} {e : Event}

-- A file that has room for what an event makes of its items holds them afterwards.
theorem perform_ofFile (h : FileStorage.Writable ⟨path⟩ d)
    (hload : FileStorage.load ⟨path⟩ d = .ok items)
    (hsize : (Toml.render (e.change items)).utf8ByteSize ≤ FileStorage.sizeLimit) :
    ∃ d', (ofFile path d).perform e = (.ok (), ofFile path d') ∧
      FileStorage.Writable ⟨path⟩ d' ∧ FileStorage.load ⟨path⟩ d' = .ok (e.change items) := by
  have hsorted := FileStorage.sorted_of_load hload
  cases e with
  | set key text =>
      obtain ⟨d', hupdate, hmade⟩ := FileStorage.update_within (Items.insert key text) h hload
        (hsorted.insert key text) hsize
      refine ⟨d', ?_, hmade⟩
      simp only [perform, setItem, ofFile, write, FileStorage.setItem, hupdate]
  | remove key =>
      obtain ⟨d', hupdate, hmade⟩ := FileStorage.update_within (Items.erase key) h hload
        (hsorted.erase key) hsize
      refine ⟨d', ?_, hmade⟩
      simp only [perform, removeItem, ofFile, write, FileStorage.removeItem, hupdate]
  | navigate target => exact ⟨d, rfl, h, hload⟩

-- A change of a file that is read again is one of a map.
theorem makes_of_load (hload : FileStorage.load ⟨path⟩ d = .ok items)
    (hperform : (ofFile path d).perform e = (.ok (), ofFile path d'))
    (hloads : FileStorage.load ⟨path⟩ d' = .ok (e.change items)) : (ofFile path d).Makes e := by
  refine ⟨by rw [hperform], fun key => ?_⟩
  rw [hperform]
  simp only [ofFile, getItem, FileStorage.getItem, hload, hloads]
  cases e with
  | set written text => exact Items.get?_insert written key text items
  | remove written => exact Items.get?_erase written key items
  | navigate target => rfl

-- A file is a map for as long as it has room for all texts.
theorem isMapFor_ofFile {events : List Event} (h : FileStorage.Writable ⟨path⟩ d)
    (hload : FileStorage.load ⟨path⟩ d = .ok items)
    (hsize : ∀ front ∈ events.inits,
      (Toml.render (front.foldl (fun items e => e.change items) items)).utf8ByteSize ≤
        FileStorage.sizeLimit) :
    (ofFile path d).IsMapFor events := by
  induction events generalizing d items with
  | nil => trivial
  | cons e events ih =>
      have hrest (front : List Event) (hfront : front ∈ events.inits) :=
        hsize (e :: front) ((List.mem_inits _ _).mpr
          (List.cons_prefix_cons.mpr ⟨rfl, (List.mem_inits _ _).mp hfront⟩))
      have hfirst := hrest [] ((List.mem_inits _ _).mpr List.nil_prefix)
      obtain ⟨d', hperform, hwritable, hloads⟩ := perform_ofFile h hload hfirst
      refine ⟨makes_of_load hload hperform hloads, ?_⟩
      rw [hperform]
      exact ih hwritable hloads hrest

end File

end Storage

end ProfileSession
