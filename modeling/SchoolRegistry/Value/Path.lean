import SchoolRegistry.Value.Basic

/-!
# Paths into dynamic values

A dotted path leads from a value to a member: through the keys of a table, the
fields of a record and the attributes of an object. Whatever is not there is
missing, and nothing is found inside scalars and lists: what may be asked of a
scalar, such as the year of a day or the text of a term, is no member here. A
record also shows its version, whether it has an identifier and, if it is an
assignment, its key.
-/

namespace SchoolRegistry.Value

/-- The names a record shows besides its fields. -/
def derived? (model : String) (version : Value) (fields : Fields) (name : String) :
    Option Value :=
  let field (k : String) : Value := (fields.lookup k).getD .null
  if (fields.lookup "id").isNone || (fields.lookup "created_at").isNone then none
  else if name == "version" then some version
  else if name == "is_persisted" then some (.flag !(field "id").isNull)
  else if name == "key" && model == "Personenkontext" then
    some (.tuple [field "person_id", field "organisation_id", field "rolle_id"])
  else none

/-- The attribute of a record or an object with the given name. -/
def attribute? (name : String) : Value → Option Value
  | record model version fields =>
    (fields.lookup name).or (derived? model version fields name)
  | object attributes => attributes.lookup name
  | _ => none

/-- The member of a value with the given name. -/
def member (name : String) : Value → Value
  | table entries => (entries.lookup name).getD .null
  | v => (v.attribute? name).getD .null

/-- The member that the names lead to, one after the other. -/
def along : List String → Value → Value
  | [], v => v
  | name :: names, v => if v.isNull then .null else along names (v.member name)

/-- The names of a dotted path. -/
def pathNames (path : String) : List String := (path.toList.splitOn '.').map String.ofList

/-- The member that a dotted path leads to. -/
def resolve (v : Value) (path : String) : Value := along (pathNames path) v

end SchoolRegistry.Value
