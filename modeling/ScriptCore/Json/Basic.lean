import ScriptCore.Number.Layout

/-!
# JSON values

A JSON object keeps its members in order of first insertion. Integers and
floats are different numbers: a float is never an integer, whatever its value.
-/

namespace ScriptCore

/-- A JSON value. -/
inductive Json where
  | null
  | bool (value : Bool)
  | integer (value : Int)
  | float (value : Binary64)
  | string (text : String)
  | array (items : List Json)
  | object (members : List (String × Json))

namespace Json

instance : Inhabited Json := ⟨null⟩

/-- Set a member: a name that is present keeps its place. -/
def insertMember (members : List (String × Json)) (name : String) (value : Json) :
    List (String × Json) :=
  match members with
  | [] => [(name, value)]
  | (present, old) :: rest =>
      if present == name then (name, value) :: rest
      else (present, old) :: insertMember rest name value

/-- Whether a member of that name is present. -/
def hasMember (members : List (String × Json)) (name : String) : Bool :=
  members.any fun (present, _) => present == name

/-- A float as a JSON number; there is none for NaN and the infinities. -/
def ofFloat (x : Binary64) : Json :=
  if x.isFinite then float x else null

/-- A new name goes to the end. -/
theorem insertMember_of_absent {members : List (String × Json)} {name : String} {value : Json}
    (absent : name ∉ members.map Prod.fst) :
    insertMember members name value = members ++ [(name, value)] := by
  induction members with
  | nil => rfl
  | cons member members ih =>
      obtain ⟨present, old⟩ := member
      rw [List.map_cons, List.mem_cons, not_or] at absent
      have other : ¬ (present == name) = true := by
        simpa using Ne.symm absent.1
      rw [insertMember, if_neg other, ih absent.2, List.cons_append]

end Json
end ScriptCore
