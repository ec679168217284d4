import Harvest.Registry.Standard

/-!
# Registries

A registry holds at most one entry for each name, in the order of first registration. The standard
set is put in when the registry is first used, if it is to be included at all. Listings are in the
order of the names and do not depend on how the entries came to be there. A copy starts with the
same entries and includes no standard set of its own.
-/

namespace Harvest

structure Registry (ν : Type) where
  includesStandard : Bool
  loaded : Bool
  entries : List (Entry ν)

namespace Registry

variable {ν : Type}

/-- Replaces the entry of the same name where it stands, or adds the entry at the end. -/
def put (e : Entry ν) : List (Entry ν) → List (Entry ν)
  | [] => [e]
  | x :: xs => if x.name = e.name then e :: xs else x :: put e xs

def lookup (name : Text) (entries : List (Entry ν)) : Option (Entry ν) :=
  entries.find? (·.name = name)

def make (includesStandard : Bool) : Registry ν := ⟨includesStandard, false, []⟩

section

variable [Host ν]

def load (r : Registry ν) : Registry ν :=
  if r.loaded then r
  else
    { r with
      loaded := true
      entries := if r.includesStandard then Standard.entries.foldl (fun es e => put e es) r.entries
        else r.entries }

/-- The registry that holds just the standard set. -/
def standard : Registry ν := (make true).load

def get? (r : Registry ν) (name : Text) : Option (Entry ν) := lookup name r.load.entries

def holds (r : Registry ν) (name : Text) : Bool := (r.get? name).isSome

/-- Only texts name entries. -/
def contains (r : Registry ν) : Value ν → Bool
  | .text name => r.holds name
  | _ => false

/-- The registry with the entry, and the warnings given on the way. A name with a colon could never
be told from a name with arguments and is refused. -/
def register (r : Registry ν) (e : Entry ν) : Except (Failure ν) (Registry ν × List Text) :=
  let r := r.load
  if e.name.contains ':' then .error (.separatorInName e.name)
  else
    .ok ({ r with entries := put e r.entries },
      if (lookup e.name r.entries).isSome then
        ["Replacing registered transformation: ".toList ++ e.name]
      else [])

/-- The registry without the name, and whether it had it. -/
def unregister (r : Registry ν) (name : Text) : Registry ν × Bool :=
  let r := r.load
  ({ r with entries := r.entries.filter (·.name ≠ name) }, (lookup name r.entries).isSome)

-- Names are compared as lists of characters.
attribute [local instance (high)] List.instLE List.decidableLE

def nameBefore (a b : Text) : Bool := decide (a ≤ b)

def keys (r : Registry ν) : List Text := (r.load.entries.map (·.name)).mergeSort nameBefore

def count (r : Registry ν) : Nat := r.load.entries.length

/-- The summaries in the order of the names, of all entries or of those that declare `kind`. -/
def summaries (r : Registry ν) (kind : Option Accepts) : List Summary :=
  let entries := match kind with
    | none => r.load.entries
    | some k => r.load.entries.filter (·.accepts = k)
  (entries.mergeSort fun a b => nameBefore a.name b.name).map Entry.summary

def copy (r : Registry ν) : Registry ν := ⟨false, true, r.load.entries⟩

/-- Drops all entries and puts the standard set in again, if it is included. -/
def reload (r : Registry ν) : Registry ν := load { r with loaded := false, entries := [] }

/-! ### Operations as data -/

inductive Operation (ν : Type) where
  | load
  | register (e : Entry ν)
  | unregister (name : Text)
  | get (name : Text)
  | contains (v : Value ν)
  | keys
  | count
  | summaries (kind : Option Accepts)
  | copy
  | reload

inductive Reply (ν : Type) where
  | done
  | registered (warnings : List Text)
  | refused (f : Failure ν)
  | removed (wasHeld : Bool)
  | entry (e : Option (Entry ν))
  | held (b : Bool)
  | names (ns : List Text)
  | number (n : Nat)
  | listing (ss : List Summary)

/-- The state after an operation, and its reply. Every operation loads the registry, and a copy goes
on in place of the registry it is made from. -/
def perform (r : Registry ν) : Operation ν → Registry ν × Reply ν
  | .load => (r.load, .done)
  | .register e =>
    match r.register e with
    | .ok (s, warnings) => (s, .registered warnings)
    | .error f => (r.load, .refused f)
  | .unregister name => ((r.unregister name).1, .removed (r.unregister name).2)
  | .get name => (r.load, .entry (r.get? name))
  | .contains v => (r.load, .held (r.contains v))
  | .keys => (r.load, .names r.keys)
  | .count => (r.load, .number r.count)
  | .summaries kind => (r.load, .listing (r.summaries kind))
  | .copy => (r.copy, .done)
  | .reload => (r.reload, .done)

end

end Registry

end Harvest
