import ScriptCore.Value.Coerce

/-!
# The scope stack

A scope is an ordered container of named bindings. The global scope is always
there; inner scopes come and go above it. A binding is a plain variable, a cell
shared with the host, or an overload set. Cells live beside the scopes, so two
names may be linked to one cell and the host sees every write.
-/

namespace ScriptCore

/-- A named entry of a scope. A linked binding refers to a cell by its number
and converts every value written to it. -/
inductive Binding where
  | plain (value : Value)
  | linked (tag : Tag) (cell : Nat)
  | function (overloads : Function)

namespace Binding

/-- The kind of a binding in words. -/
def kind : Binding → String
  | plain _ => "variable"
  | linked _ _ => "linked"
  | function _ => "function"

def isFunction : Binding → Bool
  | function _ => true
  | _ => false

def isLinked : Binding → Bool
  | linked _ _ => true
  | _ => false

/-- The value of a binding, given the cells. -/
def value (cells : Array Value) : Binding → Value
  | plain value => value
  | linked _ cell => cells.getD cell .void
  | function overloads => .function overloads

/-- The overload set that a binding makes callable. -/
def callable? : Binding → Option Function
  | function overloads => some overloads
  | plain (.function overloads) => some overloads
  | _ => none

end Binding

/-- Bindings in order of definition. -/
abbrev Scope := OrderedMap Binding

/-- Scopes from the innermost to the global one, with the cells that linked
bindings refer to. -/
structure ScopeStack where
  global : Scope
  inner : List Scope
  order : Nat
  cells : Array Value

namespace ScopeStack

/-- A stack of the global scope alone, with the bucket order of its scopes. -/
def withOrder (order : Nat) : ScopeStack :=
  { global := .withOrder order, inner := [], order, cells := #[] }

/-- Number of scopes. -/
def depth (stack : ScopeStack) : Nat :=
  stack.inner.length + 1

/-- All scopes, innermost first. -/
def scopes (stack : ScopeStack) : List Scope :=
  stack.inner ++ [stack.global]

/-- The scope at a depth, counted from the global scope at zero. -/
def scopeAt? (stack : ScopeStack) (index : Nat) : Option Scope :=
  stack.scopes.reverse[index]?

/-! ## Opening and closing scopes -/

/-- Open a scope. The answer is its depth, counted from the global scope at
zero. -/
def pushReturning (stack : ScopeStack) : Nat × ScopeStack :=
  let pushed := { stack with inner := .withOrder stack.order :: stack.inner }
  (pushed.depth - 1, pushed)

/-- Open a scope. -/
def push (stack : ScopeStack) : ScopeStack :=
  stack.pushReturning.2

/-- Close the innermost scope; the global scope cannot be closed. -/
def pop? (stack : ScopeStack) : Option ScopeStack :=
  match stack.inner with
  | [] => none
  | _ :: inner => some { stack with inner }

/-- Close scopes until at most the given number is left; the global scope
stays. -/
def truncate (stack : ScopeStack) (depth : Nat) : ScopeStack :=
  { stack with inner := stack.inner.drop (stack.depth - depth) }

/-- The depth of a new scope is the former number of scopes. -/
@[simp] theorem pushReturning_fst (stack : ScopeStack) :
    stack.pushReturning.1 = stack.depth := rfl

@[simp] theorem depth_push (stack : ScopeStack) : stack.push.depth = stack.depth + 1 := rfl

/-- Closing scopes down to a depth leaves no more than that, and always the global
scope. -/
theorem depth_truncate (stack : ScopeStack) (depth : Nat) :
    (stack.truncate depth).depth = min stack.depth (max depth 1) := by
  simp only [ScopeStack.depth, truncate, List.length_drop]
  omega

/-! ## Reading names -/

variable [KeyHash]

/-- The nearest binding of a name in a list of scopes. The name is hashed
once. -/
def nearest? (name : String) (scopes : List Scope) : Option Binding :=
  let hash := KeyHash.hash name
  scopes.findSome? fun scope => scope.getHashed? hash name

/-- The nearest binding of a name. -/
def binding? (stack : ScopeStack) (name : String) : Option Binding :=
  (nearest? name stack.inner).or (stack.global.get? name)

/-- The value of a name. -/
def get? (stack : ScopeStack) (name : String) : Option Value :=
  (stack.binding? name).map (Binding.value stack.cells)

/-- The overload set that the nearest binding of a name makes callable. -/
def lookupFunction? (stack : ScopeStack) (name : String) : Option Function :=
  (stack.binding? name).bind Binding.callable?

def contains (stack : ScopeStack) (name : String) : Bool :=
  (stack.binding? name).isSome

/-- Every bound name once, innermost scope first. -/
def visibleNames (stack : ScopeStack) : List String :=
  (stack.scopes.flatMap OrderedMap.keys).eraseDups

/-! ## Writing names -/

/-- Bind a name in the innermost scope. -/
def bind (stack : ScopeStack) (name : String) (binding : Binding) : ScopeStack :=
  match stack.inner with
  | [] => { stack with global := stack.global.insert name binding }
  | scope :: inner => { stack with inner := scope.insert name binding :: inner }

/-- Define a variable in the innermost scope. -/
def define (stack : ScopeStack) (name : String) (value : Value) : ScopeStack :=
  stack.bind name (.plain value)

/-- Replace the binding of a name in the first scope of a list that has it. -/
def replaceIn (name : String) (binding : Binding) : List Scope → Option (List Scope)
  | [] => none
  | scope :: scopes =>
      if scope.contains name then some (scope.insert name binding :: scopes)
      else (replaceIn name binding scopes).map (scope :: ·)

/-- Replace the nearest binding of a name. -/
def replace (stack : ScopeStack) (name : String) (binding : Binding) : ScopeStack :=
  match replaceIn name binding stack.inner with
  | some inner => { stack with inner }
  | none => { stack with global := stack.global.insert name binding }

/-- Update the nearest binding of a name. A linked binding stores the converted
value in its cell; any other becomes a variable. Without a binding there is no
result. -/
def set? (stack : ScopeStack) (name : String) (value : Value) :
    Except CastError (Option ScopeStack) :=
  match stack.binding? name with
  | none => .ok none
  | some (.linked tag cell) => do
      let converted ← value.coerce tag
      return some { stack with cells := stack.cells.setIfInBounds cell converted }
  | some _ => .ok (some (stack.replace name (.plain value)))

/-- Update the nearest binding of a name, or define it in the innermost
scope. -/
def assign (stack : ScopeStack) (name : String) (value : Value) : Except CastError ScopeStack :=
  if stack.contains name then do
    let updated ← stack.set? name value
    return updated.getD stack
  else .ok (stack.define name value)

/-! ## Global bindings -/

/-- Make a cell with the given content; its number is the former number of
cells. -/
def newCell (stack : ScopeStack) (value : Value) : ScopeStack :=
  { stack with cells := stack.cells.push value }

/-- Link a global name to a cell. -/
def link (stack : ScopeStack) (name : String) (tag : Tag) (cell : Nat) : ScopeStack :=
  { stack with global := stack.global.insert name (.linked tag cell) }

/-- Add a signature to the global scope; an overload set bound there under the
same name gains it. -/
def defineFunction (stack : ScopeStack) (signature : Signature) : ScopeStack :=
  let overloads :=
    match stack.global.get? signature.name with
    | some (.function overloads) => overloads.push signature
    | _ => .ofSignature signature
  { stack with global := stack.global.insert signature.name (.function overloads) }

/-- Remove a name from a scope, and compact the scope once vacant slots
outnumber the live ones. The answer is the binding that was removed. -/
def removeFromReturning (scope : Scope) (name : String) : Option Binding × Scope :=
  let (removed, remaining) := scope.eraseReturning name
  (removed, if remaining.liveCount < remaining.vacant then remaining.compact else remaining)

/-- Remove a name from a scope, and compact the scope if it is mostly vacant. -/
def removeFrom (scope : Scope) (name : String) : Scope :=
  (removeFromReturning scope name).2

/-- A scope is compacted once a removal leaves more vacant slots than live
ones. -/
theorem removeFrom_eq (scope : Scope) (name : String) :
    removeFrom scope name =
      if (scope.erase name).liveCount < (scope.erase name).vacant then (scope.erase name).compact
      else scope.erase name := rfl

/-- Remove a global binding, whatever inner scopes bind. The answer is the binding
that was removed. -/
def unbindGlobalReturning (stack : ScopeStack) (name : String) : Option Binding × ScopeStack :=
  let (removed, global) := removeFromReturning stack.global name
  (removed, { stack with global })

/-- Remove a global binding, whatever inner scopes bind. -/
def unbindGlobal (stack : ScopeStack) (name : String) : ScopeStack :=
  (stack.unbindGlobalReturning name).2

/-- The binding that is removed is the one in the global scope. -/
@[simp] theorem unbindGlobalReturning_fst (stack : ScopeStack) (name : String) :
    (stack.unbindGlobalReturning name).1 = stack.global.get? name :=
  stack.global.eraseReturning_fst name

end ScopeStack
end ScriptCore
