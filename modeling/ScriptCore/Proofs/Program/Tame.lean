import ScriptCore.Proofs.Value.Signatures

/-!
# Tame programs

A body is tame if it starts no script of its own: there is no `run` in it, nor
in the body of any function that it makes. A script may be started at top level,
where no call is active, so the steps of a program are checked with a flag that
tells whether they are the outermost ones.

Everything else is allowed in a tame body. It may call by name, call values and
methods, make instances, hand functions to the natives of the library, handle
exceptions, load modules and register further functions.
-/

namespace ScriptCore

mutual

/-- Whether the functions that an expression makes are tame. -/
def Expr.isTame : Expr → Bool
  | .array slots => Expr.areTameSlots slots
  | .record _ fields methods => Expr.areTameSlots fields && SignatureSpec.areTame methods
  | .function first others => first.isTame && SignatureSpec.areTame others
  | .call _ args | .primitive _ args => Expr.areTame args
  | _ => true
termination_by structural expr => expr

def Expr.areTame : List Expr → Bool
  | [] => true
  | expr :: exprs => expr.isTame && Expr.areTame exprs
termination_by structural exprs => exprs

def Expr.areTameSlots : List (Slot Expr) → Bool
  | [] => true
  | .vacant :: slots => Expr.areTameSlots slots
  | .item expr :: slots | .entry _ expr :: slots => expr.isTame && Expr.areTameSlots slots
termination_by structural slots => slots

def Expr.areTameFields : List (String × Expr) → Bool
  | [] => true
  | (_, expr) :: fields => expr.isTame && Expr.areTameFields fields
termination_by structural fields => fields

def SignatureSpec.isTame : SignatureSpec → Bool
  | .mk _ _ _ implementation => implementation.isTame
termination_by structural spec => spec

def SignatureSpec.areTame : List SignatureSpec → Bool
  | [] => true
  | spec :: specs => spec.isTame && SignatureSpec.areTame specs
termination_by structural specs => specs

/-- Whether a body is tame. No body of a function is at top level. -/
def Implementation.isTame : Implementation → Bool
  | .library _ _ => true
  | .native _ body | .user _ body => Program.isTame false body
termination_by structural implementation => implementation

def Change.isTame : Change → Bool
  | .addMethod spec => spec.isTame
  | _ => true
termination_by structural change => change

def Action.isTame : Action → Bool
  | .value expr | .display expr | .json expr | .truthy expr | .deepCopy expr | .field expr _
  | .handleText expr | .handleNumber expr | .handleAdd expr _ | .define _ expr | .assign _ expr
  | .link _ _ expr _ | .cellSet _ expr | .throw expr | .setSlot _ expr | .setSlotField _ _ expr
  | .log expr | .nonfatal expr none => expr.isTame
  | .compare left right | .nonfatal left (some right) => left.isTame && right.isTame
  | .mutate _ operand change => operand.isTame && change.isTame
  | .register spec => spec.isTame
  | .defineClass _ _ fields methods none =>
      Expr.areTameFields fields && SignatureSpec.areTame methods
  | .defineClass _ _ fields methods (some constructor) =>
      Expr.areTameFields fields && SignatureSpec.areTame methods && constructor.isTame
  | .callValue callee args => callee.isTame && Expr.areTame args
  | .call _ args | .callSignature _ _ args | .method _ _ args | .instantiate _ args =>
      Expr.areTame args
  | _ => true
termination_by structural action => action

/-- Whether a step is tame, given whether it is at top level. -/
def Step.isTame (top : Bool) : Step → Bool
  | .action action => action.isTame
  | .run body => top && Program.isTame top body
  | .scoped body | .attempt body | .wrap body | .load _ body | .loop _ body =>
      Program.isTame top body
  | .branch condition onTrue onFalse =>
      condition.isTame && Program.isTame top onTrue && Program.isTame top onFalse
termination_by structural step => step

def Program.isTame (top : Bool) : List Step → Bool
  | [] => true
  | step :: steps => step.isTame top && Program.isTame top steps
termination_by structural steps => steps

end

/-- A class declaration is tame if its default fields, its methods and its
constructor are. -/
theorem Action.tame_of_defineClass
    {name : String}
    {parent : Option String}
    {fields : List (String × Expr)}
    {methods : List SignatureSpec}
    {constructor : Option SignatureSpec}
    (tame : (Action.defineClass name parent fields methods constructor).isTame = true) :
    Expr.areTameFields fields = true ∧ SignatureSpec.areTame methods = true ∧
      ∀ spec ∈ constructor, spec.isTame = true := by
  cases constructor with
  | none =>
      obtain ⟨tameFields, tameMethods⟩ := Bool.and_eq_true_iff.mp tame
      exact ⟨tameFields, tameMethods, fun _ member => nomatch member⟩
  | some spec =>
      obtain ⟨tameRest, tameSpec⟩ := Bool.and_eq_true_iff.mp tame
      obtain ⟨tameFields, tameMethods⟩ := Bool.and_eq_true_iff.mp tameRest
      refine ⟨tameFields, tameMethods, ?_⟩
      intro other member
      cases member
      exact tameSpec

/-! ## Signatures and overload sets -/

/-- A signature whose body is tame. -/
def Signature.Tame (signature : Signature) : Prop :=
  signature.implementation.isTame = true

instance : DecidablePred Signature.Tame := fun signature =>
  inferInstanceAs (Decidable (signature.implementation.isTame = true))

/-- An overload set of tame signatures. -/
def Function.Tame (function : Function) : Prop :=
  ∀ signature ∈ function.overloads, signature.Tame

/-- A tame specification is built into a tame signature. -/
theorem Signature.tame_build
    {id : Nat}
    {spec : SignatureSpec}
    {signature : Signature}
    (tame : spec.isTame = true)
    (built : Signature.build id spec = .ok signature) :
    signature.Tame := by
  obtain ⟨name, text, returns, implementation⟩ := spec
  obtain ⟨prototype, -, rfl⟩ := Signature.build_eq_ok_iff.mp built
  exact tame

/-- Every function of the library is tame. -/
theorem LibraryFunction.isTame_signature (function : LibraryFunction) :
    function.signature.isTame = true := by
  cases function <;> rfl

namespace Function

variable {function : Function} {signature : Signature}

theorem tame_ofSignature (tame : signature.Tame) : (ofSignature signature).Tame :=
  only_ofSignature tame

theorem Tame.push (tame : function.Tame) (added : signature.Tame) :
    (function.push signature).Tame :=
  Only.push tame added

/-- More tame overloads keep a function tame. -/
theorem Tame.foldl_push
    {signatures : List Signature}
    (tame : function.Tame)
    (added : ∀ signature ∈ signatures, signature.Tame) :
    (signatures.foldl Function.push function).Tame :=
  List.foldlRecOn signatures _ tame fun _ grown signature member =>
    grown.push (added signature member)

/-- The overload that is selected of a tame function is tame. -/
theorem Tame.select?
    {condition : Signature → Bool}
    (tame : function.Tame)
    (selected : function.select? condition = some signature) :
    signature.Tame :=
  Only.select? tame selected

end Function
end ScriptCore
