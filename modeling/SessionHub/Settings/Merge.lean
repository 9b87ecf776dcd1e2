import SessionHub.Json.Value

/-!
# Laying one document over another

Where both documents are objects, they are merged member by member; anywhere else the upper one
stands. A null member of the upper document leaves what is below as it is.
-/

namespace SessionHub.Json

mutual

/-- The document `upper` laid over `lower`. -/
def merge (lower : Json) : Json → Json
  | .obj upper =>
    match lower with
    | .obj members => .obj (mergeMembers members upper)
    | _ => .obj upper
  | other => other

/-- The members of the upper object, laid one after the other over those of the lower. -/
def mergeMembers (lower : List (String × Json)) : List (String × Json) → List (String × Json)
  | [] => lower
  | (_, .null) :: rest => mergeMembers lower rest
  | (name, value) :: rest =>
    let merged := match lower.lookup name with
      | some below => merge below value
      | none => value
    mergeMembers (insertMember name merged lower) rest

end

end SessionHub.Json
