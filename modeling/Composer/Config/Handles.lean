import Composer.Config.Store
set_option autoImplicit false

/-!
# Handles on the configuration

A program reaches its configuration through handles. A copy of a handle has the same path and shares
what is kept with its original; a handle that is opened anew keeps for itself. Each use of a handle
is a value, and so is what others do to the disk in between, so that a whole run is a list.
-/

namespace Composer

/-- A handle on a configuration. -/
structure ConfigHandle where
  /-- The path of the file, if it is not the usual one. -/
  path : Option String := none
  /-- Where the configuration stands that is kept for this handle and its copies. -/
  slot : Nat
  deriving DecidableEq, Repr

/-- The handles that are in use, what is kept for them, and the disk. -/
structure ConfigDesk where
  disk : Disk
  handles : List ConfigHandle
  kept : List (Option Config)
  slot_lt : ∀ h ∈ handles, h.slot < kept.length
  deriving DecidableEq, Repr

/-- A use of the handles, by their numbers, or a change of the disk by somebody else. -/
inductive ConfigStep where
  | openFile (path : Option String)
  | copy (handle : Nat)
  | get (handle : Nat) (env : Environment)
  | save (handle : Nat) (env : Environment) (config : Config) (now : Int)
  | invalidate (handle : Nat)
  | changeDisk (disk : Disk)
  deriving DecidableEq, Repr

/-- What a use of the handles gives. -/
inductive ConfigReply where
  | done
  /-- The number of the new handle. -/
  | handle (number : Nat)
  | config (r : Except Fault Config)
  | saved (r : Except Fault Unit)
  deriving Repr

namespace ConfigDesk

/-- The desk before a handle is opened. -/
def start (disk : Disk) : ConfigDesk :=
  { disk
    handles := []
    kept := []
    slot_lt := fun _ hmem => absurd hmem List.not_mem_nil }

/-- What is kept in a slot. -/
def cached (desk : ConfigDesk) (slot : Nat) : Option Config := desk.kept[slot]?.join

/-- The store that a handle leads to. -/
def store (desk : ConfigDesk) (h : ConfigHandle) : ConfigStore :=
  { path := h.path, cached := desk.cached h.slot }

/-- Replaces what is kept in a slot. -/
def keep (desk : ConfigDesk) (slot : Nat) (c : Option Config) : ConfigDesk :=
  { desk with
    kept := desk.kept.set slot c
    slot_lt := by simpa using desk.slot_lt }

/-- The desk with another disk. -/
def withDisk (desk : ConfigDesk) (disk : Disk) : ConfigDesk := { desk with disk }

/-- Adds a handle with a slot of its own. -/
def openFile (desk : ConfigDesk) (path : Option String) : ConfigDesk :=
  { desk with
    handles := desk.handles ++ [{ path, slot := desk.kept.length }]
    kept := desk.kept ++ [none]
    slot_lt := by
      intro h hmem
      rw [List.mem_append, List.mem_singleton] at hmem
      rw [List.length_append, List.length_singleton]
      rcases hmem with hmem | rfl
      · exact Nat.lt_succ_of_lt (desk.slot_lt h hmem)
      · exact Nat.lt_succ_self _ }

/-- Adds a copy of the handle with a number. -/
def addCopy (desk : ConfigDesk) (n : Nat) : ConfigDesk :=
  { desk with
    handles := desk.handles ++ desk.handles[n]?.toList
    slot_lt := by
      intro h hmem
      rw [List.mem_append, Option.mem_toList] at hmem
      rcases hmem with hmem | hcopied
      · exact desk.slot_lt h hmem
      · exact desk.slot_lt h (List.mem_of_getElem? hcopied) }

/-- Performs one step. A number without a handle does nothing. -/
def perform (desk : ConfigDesk) : ConfigStep → ConfigReply × ConfigDesk
  | .openFile path => (.handle desk.handles.length, desk.openFile path)
  | .copy n =>
    match desk.handles[n]? with
    | some _ => (.handle desk.handles.length, desk.addCopy n)
    | none => (.done, desk)
  | .get n env =>
    match desk.handles[n]? with
    | some h =>
      let (r, store) := (desk.store h).get env desk.disk
      (.config r, desk.keep h.slot store.cached)
    | none => (.done, desk)
  | .save n env c now =>
    match desk.handles[n]? with
    | some h =>
      let (r, store, disk) := (desk.store h).save env desk.disk c now
      (.saved r, (desk.keep h.slot store.cached).withDisk disk)
    | none => (.done, desk)
  | .invalidate n =>
    match desk.handles[n]? with
    | some h => (.done, desk.keep h.slot (desk.store h).invalidate.cached)
    | none => (.done, desk)
  | .changeDisk disk => (.done, desk.withDisk disk)

/-- The desk after a sequence of steps. -/
def after (desk : ConfigDesk) (steps : List ConfigStep) : ConfigDesk :=
  steps.foldl (fun desk step => (desk.perform step).2) desk

@[simp] theorem after_nil (desk : ConfigDesk) : desk.after [] = desk := rfl

@[simp] theorem after_cons (desk : ConfigDesk) (step : ConfigStep) (steps : List ConfigStep) :
    desk.after (step :: steps) = (desk.perform step).2.after steps := rfl

end ConfigDesk
end Composer
