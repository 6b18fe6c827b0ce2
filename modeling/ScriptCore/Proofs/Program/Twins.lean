import ScriptCore.Proofs.Engine.Twins

/-!
# Programs and twin dispatchers

Tame expressions and actions act in the same way through twin dispatchers: they
give the same tame value and leave the same tame engine. The argument goes by
the structure of expressions, and by cases on the action.
-/

namespace ScriptCore

open Engine

section

variable {depth cap : Nat} {first second : Dispatcher}

/-! ## Expressions -/

variable [KeyHash]

mutual

/-- Under twin dispatchers a tame expression evaluates alike. -/
theorem agree_eval (twins : Twins depth cap first second) : ∀ expr : Expr, expr.isTame = true →
    Agree depth cap Value.Tame (expr.eval first) (expr.eval second)
  | .void, _ => Agree.pure Value.tame_void
  | .bool _, _ => Agree.pure (by simp)
  | .int _, _ => Agree.pure (by simp)
  | .float _, _ => Agree.pure (by simp)
  | .str _, _ => Agree.pure (by simp)
  | .array slots, tame =>
      (agree_evalSlots twins slots tame OrderedMap.all_empty).andReturn
        fun _ items => Value.tame_array.mpr items
  | .record _ fields _, tame =>
      have parts := Bool.and_eq_true_iff.mp tame
      (agree_evalSlots twins fields parts.1 OrderedMap.all_empty).bind fun _ tameFields =>
        (agree_buildSignatures parts.2).andReturn fun _ signatures =>
          Value.tame_record.mpr
            (RecordOf.Tame.foldl_addMethod ⟨tameFields, OrderedMap.all_empty⟩ signatures)
  | .function _ _, tame =>
      have parts := Bool.and_eq_true_iff.mp tame
      (agree_buildSignature parts.1).bind fun _ tameHead =>
        (agree_buildSignatures parts.2).andReturn fun _ signatures =>
          (Function.tame_ofSignature tameHead).foldl_push signatures
  | .resource kind handle hasDestructor, _ =>
      Agree.lift (alike_newResource kind handle hasDestructor)
  | .var name, _ => agree_getVariable name
  | .call name args, tame =>
      (agree_evalArgs twins args tame).bind fun _ values => twins.callByName name values
  | .slot index, _ => Agree.lift (alike_arg index)
  | .slots, _ => Agree.readThenReturn fun _ within => Value.tame_ofList.mpr within.tame.slots
  | .slotCount, _ => Agree.readThenReturn fun _ _ => by simp
  | .primitive operation args, tame =>
      (agree_evalArgs twins args tame).andReturn fun _ values => operation.tame_apply values
  | .fault _, _ => Agree.throw trivial

theorem agree_evalArgs (twins : Twins depth cap first second) :
    ∀ exprs : List Expr, Expr.areTame exprs = true →
    Agree depth cap (fun values => ∀ value ∈ values, value.Tame) (evalArgs first exprs)
      (evalArgs second exprs)
  | [], _ => Agree.pure fun _ member => nomatch member
  | expr :: exprs, tame =>
      have parts := Bool.and_eq_true_iff.mp tame
      (agree_eval twins expr parts.1).bind fun _ value =>
        (agree_evalArgs twins exprs parts.2).andReturn
          fun _ values => List.forall_mem_cons.mpr ⟨value, values⟩

theorem agree_evalSlots (twins : Twins depth cap first second) :
    ∀ slots : List (Slot Expr), Expr.areTameSlots slots = true →
      ∀ {items : OrderedMap Value}, items.All Value.Tame →
      Agree depth cap (OrderedMap.All Value.Tame) (evalSlots first items slots)
        (evalSlots second items slots)
  | [], _, _, all => Agree.pure all
  | .vacant :: slots, tame, _, all => agree_evalSlots twins slots tame (tame_appendVacant all)
  | .item expr :: slots, tame, _, all =>
      have parts := Bool.and_eq_true_iff.mp tame
      (agree_eval twins expr parts.1).bind fun _ value =>
        agree_evalSlots twins slots parts.2 (all.append value)
  | .entry key expr :: slots, tame, _, all =>
      have parts := Bool.and_eq_true_iff.mp tame
      (agree_eval twins expr parts.1).bind fun _ value =>
        agree_evalSlots twins slots parts.2 (all.insert key value)

end

theorem Program.agree_evalFields
    (twins : Twins depth cap first second)
    {exprs : List (String × Expr)}
    (tame : Expr.areTameFields exprs = true)
    {fields : OrderedMap Value}
    (all : fields.All Value.Tame) :
    Agree depth cap (OrderedMap.All Value.Tame) (evalFields first fields exprs)
      (evalFields second fields exprs) := by
  induction exprs generalizing fields with
  | nil => exact Agree.pure all
  | cons entry exprs ih =>
      obtain ⟨tameHead, tameRest⟩ := Bool.and_eq_true_iff.mp tame
      refine (agree_eval twins entry.2 tameHead).bind fun value holds => ?_
      exact ih tameRest (all.insert entry.1 holds)

/-! ## Actions -/

/-- A change yields a tame value and a tame result, if it applies at all. -/
theorem Change.agree_apply
    {change : Change}
    {target operand : Value}
    (tameChange : change.isTame = true)
    (tameTarget : target.Tame)
    (tameOperand : operand.Tame) :
    Agree depth cap (fun result => ∀ changed ∈ result, changed.1.Tame ∧ changed.2.Tame)
      (change.apply target operand) (change.apply target operand) := by
  have changes {value result : Value} (tameValue : value.Tame) (tameResult : result.Tame) :
      Agree depth cap (fun result => ∀ changed ∈ result, changed.1.Tame ∧ changed.2.Tame)
        (pure (some (value, result))) (pure (some (value, result))) := by
    apply Agree.pure
    intro changed member
    cases member
    exact ⟨tameValue, tameResult⟩
  have idle : Agree depth cap
      (fun result : Option (Value × Value) => ∀ changed ∈ result, changed.1.Tame ∧ changed.2.Tame)
      (pure none) (pure none) :=
    Agree.pure fun _ member => nomatch member
  cases target with
  | str bytes =>
      cases change with
      | pushBytes => exact changes (by simp) Value.tame_void
      | addMethod spec => exact (agree_buildSignature tameChange).bind fun _ _ => idle
      | _ => exact idle
  | array items =>
      have all := Value.tame_array.mp tameTarget
      cases change with
      | append =>
          exact changes (Value.tame_array.mpr (all.append tameOperand)) (by simp)
      | insert key =>
          refine changes (Value.tame_array.mpr (all.insert key tameOperand)) ?_
          rw [OrderedMap.insertReturning_fst]
          exact Value.tame_ofOption.mpr fun _ => all.get?
      | setAt index =>
          exact changes (Value.tame_array.mpr (all.setAt index tameOperand))
            (by simp)
      | deleteAt index =>
          refine changes (Value.tame_array.mpr (all.deleteAt index)) ?_
          rw [OrderedMap.deleteAtReturning_fst]
          exact Value.tame_ofOption.mpr fun _ => all.getAt?
      | erase key =>
          refine changes (Value.tame_array.mpr (all.erase key)) ?_
          rw [OrderedMap.eraseReturning_fst]
          exact Value.tame_ofOption.mpr fun _ => all.get?
      | addMethod spec => exact (agree_buildSignature tameChange).bind fun _ _ => idle
      | _ => exact idle
  | record content =>
      have tame := Value.tame_record.mp tameTarget
      cases change with
      | setField name =>
          refine changes (Value.tame_record.mpr (tame.setField name tameOperand)) ?_
          rw [RecordOf.setFieldReturning_fst]
          exact Value.tame_ofOption.mpr fun _ => tame.fields.get?
      | removeField name =>
          refine changes (Value.tame_record.mpr (tame.removeField name)) ?_
          rw [RecordOf.removeFieldReturning_fst]
          exact Value.tame_ofOption.mpr fun _ => tame.fields.get?
      | addMethod spec =>
          refine (agree_buildSignature tameChange).bind fun signature holds => ?_
          exact changes (Value.tame_record.mpr (tame.addMethod holds)) Value.tame_void
      | _ => exact idle
  | _ =>
      cases change with
      | addMethod spec => exact (agree_buildSignature tameChange).bind fun _ _ => idle
      | _ => exact idle

namespace Program

variable (twins : Twins depth cap first second)

include twins

/-- Under twin dispatchers the declaration of a tame class goes alike. -/
theorem agree_declareClass
    (name : String)
    (parent : Option String)
    (fields : List (String × Expr))
    (methods : List SignatureSpec)
    (constructor : Option SignatureSpec)
    (tameFields : Expr.areTameFields fields = true)
    (tameMethods : SignatureSpec.areTame methods = true)
    (tameConstructor : ∀ spec ∈ constructor, spec.isTame = true) :
    Agree depth cap Value.Tame (declareClass first name parent fields methods constructor)
      (declareClass second name parent fields methods constructor) := by
  unfold declareClass
  -- What follows once the parent is known, through either dispatcher.
  extract_lets declare declare'
  have declared (parent? : Option Class) (tameParent : ∀ cls ∈ parent?, cls.Tame) :
      Agree depth cap Value.Tame (declare parent?) (declare' parent?) := by
    refine (agree_evalFields twins tameFields OrderedMap.all_empty).bind fun fields allTame => ?_
    refine (agree_buildSignatures tameMethods).bind fun methods tameSignatures => ?_
    have registers (constructor? : Option Signature)
        (tame : ∀ signature ∈ constructor?, signature.Tame) :
        Agree depth cap Value.Tame
          (modify (registerClass (.extending { name, fields, methods, constructor? } parent?)) >>=
            fun _ => pure (.ofText name))
          (modify (registerClass (.extending { name, fields, methods, constructor? } parent?)) >>=
            fun _ => pure (.ofText name)) := by
      refine Agree.editThenReturn (fun engine within => ?_) (by simp)
      exact within.registerClass (Class.tame_extending ⟨allTame, tameSignatures, tame⟩ tameParent)
    cases constructor with
    | none => exact Agree.bind (Agree.pure fun _ member => nomatch member) registers
    | some spec =>
        refine Agree.bind ((agree_buildSignature (tameConstructor spec rfl)).andReturn ?_) registers
        intro signature tame other member
        cases member
        exact tame
  cases parent with
  | none => exact declared none fun _ member => nomatch member
  | some parentName =>
      apply Agree.reading
      intro engine within
      cases found : engine.class? parentName with
      | none => exact Agree.fail rfl
      | some cls =>
          refine declared (some cls) ?_
          intro other member
          cases member
          exact within.class? found

/-- Under twin dispatchers a call of a method on a variable goes alike. -/
theorem agree_callMethodOn
    (target name : String)
    {args : List Value}
    (tameArgs : ∀ arg ∈ args, arg.Tame) :
    Agree depth cap Value.Tame (callMethodOn first target name args)
      (callMethodOn second target name args) := by
  refine (agree_getVariable target).bind fun receiver tame => ?_
  refine (Agree.lift (twins.callMethod name tame tameArgs)).bind fun reply tameReply => ?_
  have left : (reply.receiver?.getD .void).Tame := Value.tame_getD tameReply.receiver
  have proper := tameReply.outcome
  cases ended : reply.outcome with
  | ok value =>
      rw [ended] at proper
      exact (agree_assign target left).andReturn fun _ _ => proper
  | error failure =>
      rw [ended] at proper
      cases failure with
      | error error => exact (agree_assign target left).bind fun _ _ => Agree.throw proper
      | fault message => exact Agree.throw trivial
      | exhausted => exact proper.elim

omit twins in
theorem tame_dumpScope
    {stack : ScopeStack}
    {scope : Scope}
    (tame : stack.Tame)
    (all : scope.All Binding.Tame) :
    (dumpScope stack.cells scope).All Value.Tame := by
  refine OrderedMap.All.mapValues all fun binding holds => ?_
  simpa using tame.value holds

omit twins in
/-- What is told about a tame class is tame. -/
theorem tame_classInfo {cls : Class} (tame : cls.Tame) : (classInfo cls).Tame := by
  have named (name? : Option String) : ((name?.map Value.ofText).getD .void).Tame := by
    cases name? <;> simp
  have template : (Value.record cls.template).Tame := Value.tame_record.mpr tame.template
  apply Value.tame_ofList.mpr
  simp only [List.forall_mem_cons, List.not_mem_nil, false_implies, implies_true, and_true]
  exact ⟨by simp, named _, named _, template⟩

/-- Actions act in the same way through twin dispatchers. -/
theorem agree_execAction {action : Action} (tame : action.isTame = true) :
    Agree depth cap Value.Tame (execAction first action) (execAction second action) := by
  cases action with
  | value expr => exact agree_eval twins expr tame
  | display expr =>
      exact (agree_eval twins expr tame).andReturn fun _ _ => by simp
  | json expr => exact (agree_eval twins expr tame).andReturn fun _ _ => by simp
  | truthy expr => exact (agree_eval twins expr tame).andReturn fun _ _ => by simp
  | deepCopy expr => exact (agree_eval twins expr tame).andReturn fun _ value => value.deepCopy
  | compare left right =>
      obtain ⟨tameLeft, tameRight⟩ := Bool.and_eq_true_iff.mp tame
      refine (agree_eval twins left tameLeft).bind fun leftValue _ => ?_
      refine (agree_eval twins right tameRight).andReturn fun rightValue _ => ?_
      simp
  | field expr name =>
      exact (agree_eval twins expr tame).andReturn
        fun _ value => Value.tame_ofOption.mpr fun _ => value.field
  | handleText expr =>
      refine (agree_eval twins expr tame).bind fun value _ => ?_
      apply Agree.reading
      intro engine within
      rcases handleOf? engine value with - | ⟨id, text | n⟩ <;> exact Agree.pure (by simp)
  | handleNumber expr =>
      refine (agree_eval twins expr tame).bind fun value _ => ?_
      apply Agree.reading
      intro engine within
      rcases handleOf? engine value with - | ⟨id, text | n⟩ <;> exact Agree.pure (by simp)
  | handleAdd expr amount =>
      refine (agree_eval twins expr tame).bind fun value _ => ?_
      apply Agree.reading
      intro engine within
      rcases handleOf? engine value with - | ⟨id, text | n⟩
      · exact Agree.pure (by simp)
      · exact Agree.pure (by simp)
      · exact Agree.editThenReturn (fun _ inside => inside.of_same rfl) (by simp)
  | mutate target operand change =>
      obtain ⟨tameOperand, tameChange⟩ := Bool.and_eq_true_iff.mp tame
      refine (agree_eval twins operand tameOperand).bind fun operand tameOperand => ?_
      refine (agree_getVariable target).bind fun value tameValue => ?_
      refine (Change.agree_apply tameChange tameValue tameOperand).bind fun result holds => ?_
      cases result with
      | none => exact Agree.pure (by simp)
      | some changed =>
          have tameBoth := holds changed rfl
          exact (agree_assign target tameBoth.1).andReturn fun _ _ => by simpa using tameBoth.2
  | enter =>
      apply Agree.reading
      intro engine within
      exact Agree.editThenReturn (fun _ inside => inside.push) (by simp)
  | leave =>
      apply Agree.reading
      intro engine within
      cases popped : engine.scopes.pop? with
      | none => exact Agree.pure (by simp)
      | some scopes =>
          have tameScopes := within.tame.scopes.pop? popped
          exact Agree.editThenReturn (fun _ inside => inside.withScopes tameScopes) (by simp)
  | define name expr =>
      refine (agree_eval twins expr tame).bind fun value tameValue => ?_
      refine Agree.editThenReturn (fun _ inside => ?_) Value.tame_void
      exact inside.withScopes (inside.tame.scopes.define name tameValue)
  | assign name expr =>
      refine (agree_eval twins expr tame).bind fun value tameValue => ?_
      exact (agree_assign name tameValue).andReturn fun _ _ => Value.tame_void
  | lookup name =>
      exact Agree.readThenReturn fun _ within =>
        Value.tame_ofOption.mpr fun _ => within.tame.scopes.get?
  | names => exact Agree.readThenReturn fun _ _ => Value.tame_ofTexts _
  | scope index =>
      apply Agree.readThenReturn
      intro engine within
      apply Value.tame_ofOption.mpr
      intro value member
      obtain ⟨scope, there, rfl⟩ := Option.map_eq_some_iff.mp member
      exact Value.tame_array.mpr
        (tame_dumpScope within.tame.scopes (within.tame.scopes.scopeAt? there))
  | globalStats => exact Agree.readThenReturn fun _ _ => by simp
  | register spec => exact (agree_register tame).andReturn fun _ _ => by simp
  | unregister name =>
      exact (Agree.lift (alike_unbindWhere _ name)).andReturn fun _ _ => by simp
  | link name tag expr cellName =>
      refine (agree_eval twins expr tame).bind fun value tameValue => ?_
      apply Agree.reading
      intro engine within
      refine Agree.bind (Agree.edit fun _ inside => inside.newCell cellName tameValue) fun _ _ => ?_
      exact Agree.editThenReturn (fun _ inside => inside.registerVariable name tag _)
        Value.tame_void
  | unlink name =>
      exact (Agree.lift (alike_unbindWhere _ name)).andReturn fun _ _ => by simp
  | cellGet cellName =>
      apply Agree.reading
      intro engine within
      cases engine.cell? cellName with
      | none => exact Agree.pure Value.tame_void
      | some cell => exact Agree.pure (within.tame.scopes.cell cell)
  | cellSet cellName expr =>
      refine (agree_eval twins expr tame).bind fun value tameValue => ?_
      apply Agree.reading
      intro engine within
      cases engine.cell? cellName with
      | none => exact Agree.pure Value.tame_void
      | some cell =>
          refine Agree.editThenReturn (fun _ inside => ?_) (within.tame.scopes.cell cell)
          exact inside.withScopes (inside.tame.scopes.setCell cell tameValue)
  | defineClass name parent fields methods constructor =>
      obtain ⟨tameFields, tameMethods, tameConstructor⟩ := Action.tame_of_defineClass tame
      exact agree_declareClass twins name parent fields methods constructor tameFields tameMethods
        tameConstructor
  | removeClass name =>
      apply Agree.reading
      intro engine within
      exact Agree.editThenReturn (fun _ inside => inside.removeClass name) (by simp)
  | classInfo name =>
      apply Agree.readThenReturn
      intro engine within
      apply Value.tame_ofOption.mpr
      intro value member
      obtain ⟨cls, found, rfl⟩ := Option.map_eq_some_iff.mp member
      exact tame_classInfo (within.class? found)
  | classIsA name target =>
      apply Agree.readThenReturn
      intro engine within
      apply Value.tame_ofOption.mpr
      intro value member
      obtain ⟨cls, -, rfl⟩ := Option.map_eq_some_iff.mp member
      simp
  | functions => exact Agree.readThenReturn fun _ _ => Value.tame_ofTexts _
  | install => exact agree_installLibrary.andReturn fun _ _ => Value.tame_void
  | call name args =>
      exact (agree_evalArgs twins args tame).bind fun _ values => twins.callByName name values
  | callValue callee args =>
      obtain ⟨tameCallee, tameArgs⟩ := Bool.and_eq_true_iff.mp tame
      refine (agree_eval twins callee tameCallee).bind fun calleeValue holds => ?_
      exact (agree_evalArgs twins args tameArgs).bind fun _ values => twins.callValue holds values
  | callSignature name index args =>
      refine (agree_evalArgs twins args tame).bind fun values tameValues => ?_
      apply Agree.reading
      intro engine within
      split
      · next signature chosen =>
        obtain ⟨function, found, there⟩ := Option.bind_eq_some_iff.mp chosen
        have tameFunction := within.tame.scopes.lookupFunction? found
        exact twins.callSignature (tameFunction signature (List.mem_of_getElem? there)) tameValues
      · exact Agree.fail rfl
  | method target name args =>
      exact (agree_evalArgs twins args tame).bind
        fun _ values => agree_callMethodOn twins target name values
  | instantiate className args =>
      exact (agree_evalArgs twins args tame).bind
        fun _ values => twins.instantiate className values
  | throw expr => exact (agree_eval twins expr tame).bind fun _ value => agree_throwValue value
  | exceptionState =>
      apply Agree.readThenReturn
      intro engine within
      apply Value.tame_ofList.mpr
      refine List.forall_mem_cons.mpr ⟨by simp, ?_⟩
      exact fun payload member => within.tame.exception payload (Option.mem_toList.mp member)
  | nonfatal expr default =>
      cases default with
      | none =>
          exact (agree_eval twins expr tame).bind
            fun _ _ => Agree.lift (alike_nonfatal _ Value.tame_void)
      | some other =>
          obtain ⟨tameExpr, tameOther⟩ := Bool.and_eq_true_iff.mp tame
          refine (agree_eval twins expr tameExpr).bind fun message _ => ?_
          exact (agree_eval twins other tameOther).bind
            fun _ value => Agree.lift (alike_nonfatal _ value)
  | reports => exact Agree.readThenReturn fun _ _ => Value.tame_ofTexts _
  | takeReports =>
      apply Agree.reading
      intro engine within
      exact Agree.editThenReturn (fun _ inside => inside.of_same rfl) (Value.tame_ofTexts _)
  | safeModeGet => exact Agree.readThenReturn fun _ _ => by simp
  | safeModeSet flag =>
      apply Agree.reading
      intro engine within
      cases engine.safeMode.set flag with
      | ok safeMode => exact Agree.editThenReturn (fun _ inside => inside.of_same rfl) (by simp)
      | error error => exact Agree.pure (by simp)
  | privileged operation =>
      exact (Agree.lift (alike_allowPrivileged operation)).andReturn fun _ _ => by simp
  | unload name =>
      exact (Agree.lift (alike_unloadModule name)).andReturn fun _ _ => by simp
  | modules => exact Agree.readThenReturn fun _ _ => Value.tame_ofTexts _
  | setEvaluator =>
      exact Agree.editThenReturn (fun _ inside => inside.of_same rfl) Value.tame_void
  | hasEvaluator => exact Agree.readThenReturn fun _ _ => by simp
  | debug => exact Agree.readThenReturn fun _ _ => by simp
  | setSlot index expr =>
      refine (agree_eval twins expr tame).bind fun value tameValue => ?_
      exact Agree.editThenReturn (fun _ inside => inside.setSlot index tameValue)
        Value.tame_void
  | takeSlot index => exact Agree.lift (alike_takeArg index)
  | setSlotField index name expr =>
      refine (agree_eval twins expr tame).bind fun value tameValue => ?_
      apply Agree.reading
      intro engine within
      have tameSlot := within.slotAt index
      cases held : engine.slotAt index with
      | record content =>
          rw [held, Value.tame_record] at tameSlot
          have changed := Value.tame_record.mpr (tameSlot.setField name tameValue)
          exact Agree.editThenReturn (fun _ inside => inside.setSlot index changed)
            Value.tame_void
      | _ => exact Agree.pure Value.tame_void
  | log expr =>
      refine (agree_eval twins expr tame).bind fun value _ => ?_
      exact Agree.editThenReturn (fun _ inside => inside.of_same rfl) Value.tame_void
  | notCallable typeName => exact Agree.fail rfl

end Program
end
end ScriptCore
