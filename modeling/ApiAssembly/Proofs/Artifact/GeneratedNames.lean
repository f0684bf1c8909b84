import ApiAssembly.Artifact.CommandLine
import ApiAssembly.Artifact.ScriptingClient
import ApiAssembly.Proofs.Identifier.NameChars
import Mathlib.Data.List.Nodup
/-! The names of the generated programs. The checks look at the names that operations and parameters
are given; the emitters go on from there, with a field for the body and with names that are kept
free. What passes the checks stays free of doubles. -/
namespace ApiAssembly

/-! The command line: the body takes a name that is left over. -/
namespace CommandLine

theorem bodyField_not_mem (pathFields : List String) (free : "request_body_" ∉ pathFields) :
    bodyField pathFields ∉ pathFields := by
  unfold bodyField
  cases found : ["body", "payload", "request_body"].find? fun name => !pathFields.contains name with
  | none => exact free
  | some name =>
    have unused := List.find?_some found
    rw [Option.getD_some]
    simpa using unused

namespace Command

theorem fields_nodup (command : Command)
    (once : (command.route.pathParameters.map Identifier.commandField).Nodup) :
    command.fields.Nodup := by
  -- No parameter can take the last resort, so there always is a name left for the body.
  have free : "request_body_" ∉ command.pathFields := by
    intro taken
    obtain ⟨parameter, _, same⟩ := List.mem_map.mp taken
    exact Identifier.commandField_ne_bodyName parameter same
  rw [fields, List.nodup_append]
  refine ⟨once, ?_, ?_⟩
  · cases command.bodyField? with
    | none => exact List.nodup_nil
    | some name => exact List.nodup_singleton name
  · intro field isPath other isBody same
    unfold bodyField? at isBody
    split at isBody
    · rw [Option.toList_some, List.mem_singleton] at isBody
      exact bodyField_not_mem command.pathFields free (isBody ▸ same ▸ isPath)
    · cases isBody

end Command
end CommandLine

/-! The scripting client: methods keep clear of what the class has of its own. -/
namespace ScriptingClient

/-- Attributes and methods that every client has. -/
def memberNames : List String := ["timeout", "base_url", "_request", "__init__"]

theorem clientMethod_not_mem (id : String) :
    (Identifier.Names.ofOperation id).clientMethod ∉
      ["timeout_", "base_url", "_request", "__init__"] := by
  apply Identifier.python_not_mem _ _ (Identifier.underscore_not_mem_camel id)
  · decide
  · decide
  · decide

theorem methodName_eq (id : String) :
    methodName id =
      if (Identifier.Names.ofOperation id).clientMethod = "timeout" then "timeout_"
      else (Identifier.Names.ofOperation id).clientMethod := by
  unfold methodName
  by_cases hides : (Identifier.Names.ofOperation id).clientMethod = "timeout"
  · rw [if_pos hides, hides]
    decide
  · rw [if_neg hides]
    simp [attributeNames, hides]

theorem methodName_not_mem (id : String) : methodName id ∉ memberNames := by
  rw [methodName_eq]
  split
  · decide
  · rename_i other
    have free := clientMethod_not_mem id
    simp only [memberNames, List.mem_cons, List.not_mem_nil, or_false, not_or] at free ⊢
    exact ⟨other, free.2⟩

/-- The method that makes way for an attribute meets no other. -/
theorem clientMethod_of_methodName {first second : String}
    (same : methodName first = methodName second) :
    (Identifier.Names.ofOperation first).clientMethod =
      (Identifier.Names.ofOperation second).clientMethod := by
  -- Only one name moves, and it moves to where no method was before.
  have firstFree := List.ne_of_not_mem_cons (clientMethod_not_mem first)
  have secondFree := List.ne_of_not_mem_cons (clientMethod_not_mem second)
  rw [methodName_eq, methodName_eq] at same
  split at same
  · rename_i firstMoves
    split at same
    · rename_i secondMoves
      rw [firstMoves, secondMoves]
    · exact absurd same.symm secondFree
  · split at same
    · exact absurd same firstFree
    · exact same

theorem methodNames_nodup (ids : List String)
    (once : (ids.map fun id => (Identifier.Names.ofOperation id).clientMethod).Nodup) :
    (ids.map methodName).Nodup := by
  rw [List.Nodup, List.pairwise_map] at once ⊢
  apply once.imp
  intro first second differ same
  exact differ (clientMethod_of_methodName same)

/-- The names that a method binds, in the order of its signature. -/
def boundNames (route : Route) : List String :=
  "self" :: arguments route ++ if route.hasBody then ["payload"] else []

theorem boundNames_nodup (route : Route)
    (once : (route.pathParameters.map Identifier.clientArgument).Nodup) :
    (boundNames route).Nodup := by
  have free : ∀ argument ∈ arguments route, argument ∉ ["self", "payload"] := by
    intro argument member
    obtain ⟨parameter, _, same⟩ := List.mem_map.mp member
    exact same ▸ Identifier.clientArgument_not_mem parameter
  have body : ∀ name ∈ (if route.hasBody then ["payload"] else []), name = "payload" := by
    intro name member
    split at member
    · exact List.mem_singleton.mp member
    · cases member
  rw [boundNames, List.cons_append, List.nodup_cons, List.nodup_append]
  -- The arguments differ from each other. The receiver and the body differ from all of them.
  refine ⟨?_, once, ?_, ?_⟩
  · intro receiver
    rcases List.mem_append.mp receiver with isArgument | isBody
    · exact free _ isArgument (by decide)
    · exact absurd (body _ isBody) (by decide)
  · split
    · exact List.nodup_singleton _
    · exact List.nodup_nil
  · intro argument isArgument name isBody same
    apply free argument isArgument
    rw [same, body name isBody]
    decide

/-- A bound name in a signature: a call may leave the body out. -/
def declared (name : String) : String := if name = "payload" then "payload=None" else name

/-- The bound names are those that the signature lists. -/
theorem signature_eq (route : Route) :
    signature route = String.join
      ("self" :: (boundNames route).tail.map fun name => ", " ++ declared name) := by
  have kept : ∀ name ∈ arguments route, ", " ++ declared name = ", " ++ name := by
    intro name member
    obtain ⟨parameter, _, same⟩ := List.mem_map.mp member
    have free := Identifier.clientArgument_not_mem parameter
    rw [same, List.mem_cons, List.mem_singleton, not_or] at free
    rw [declared, if_neg free.2]
  rw [signature, boundNames, List.cons_append, List.tail_cons, List.map_append,
    List.map_congr_left kept, ← List.cons_append, String.join_append]
  congr 1
  split
  · decide
  · rfl

theorem wordlike_of_mem_boundNames (route : Route) (name : String) (bound : name ∈ boundNames route) :
    Identifier.Wordlike name := by
  have receiver : Identifier.Wordlike "self" := by decide
  have payload : Identifier.Wordlike "payload" := by decide
  rcases List.mem_append.mp bound with fixed | body
  · rcases List.mem_cons.mp fixed with rfl | isArgument
    · exact receiver
    · obtain ⟨parameter, _, rfl⟩ := List.mem_map.mp isArgument
      exact Identifier.wordlike_clientArgument parameter
  · split at body
    · exact List.mem_singleton.mp body ▸ payload
    · cases body

end ScriptingClient

end ApiAssembly
