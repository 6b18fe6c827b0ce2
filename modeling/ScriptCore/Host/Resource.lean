import ScriptCore.Program.Syntax

/-!
# Host resources

A resource wraps a handle of the host. Values refer to it by number only; the
handle itself lives in a table. A resource with a destructor is released once,
when nothing refers to it any more, and stays in the table afterwards, so that
numbers are never used twice.
-/

namespace ScriptCore

/-- A handle of the host under the care of the engine. -/
structure Resource where
  kind : String
  handle : Handle
  hasDestructor : Bool
  isReleased : Bool
deriving DecidableEq

namespace Handle

/-- The handle in words. -/
def toText : Handle → String
  | text content => content
  | number n => toString n

end Handle

namespace Resource

/-- What the destructor sees. -/
def toText (resource : Resource) : String :=
  resource.kind ++ ":" ++ resource.handle.toText

end Resource

/-- Resources in order of creation; they are numbered from one. -/
structure ResourceTable where
  resources : Array Resource

namespace ResourceTable

def empty : ResourceTable := ⟨#[]⟩

/-- The number of the next resource. -/
def nextId (table : ResourceTable) : Nat :=
  table.resources.size + 1

/-- Add a resource. -/
def create (table : ResourceTable) (kind : String) (handle : Handle) (hasDestructor : Bool) :
    ResourceTable :=
  ⟨table.resources.push { kind, handle, hasDestructor, isReleased := false }⟩

/-- The handle of a resource. -/
def handle? (table : ResourceTable) (id : Nat) : Option Handle :=
  if id = 0 then none else (table.resources[id - 1]?).map Resource.handle

/-- Replace the handle of a resource. -/
def setHandle (table : ResourceTable) (id : Nat) (handle : Handle) : ResourceTable :=
  if id = 0 then table
  else ⟨table.resources.modify (id - 1) fun resource => { resource with handle }⟩

/-- Whether a resource is to be released, given the numbers still in use. -/
def isGarbage (reachable : List Nat) (resource : Resource) (id : Nat) : Bool :=
  resource.hasDestructor && !resource.isReleased && !reachable.contains id

/-- Release every resource that is not reachable; the texts of those with a
destructor come in order of creation. -/
def release (table : ResourceTable) (reachable : List Nat) : List String × ResourceTable :=
  let numbered := table.resources.toList.zipIdx 1
  let texts := numbered.filterMap fun (resource, id) =>
    if isGarbage reachable resource id then some resource.toText else none
  let resources := numbered.map fun (resource, id) =>
    if isGarbage reachable resource id then { resource with isReleased := true } else resource
  (texts, ⟨resources.toArray⟩)

end ResourceTable
end ScriptCore
