import ApiClient.Output.Emission

/-! Files kept in memory, by name, in the order in which the names first came. Writing to them never
fails. -/

namespace ApiClient

abbrev MemoryFiles := List (Text × Text)

namespace MemoryFiles

def get? (name : Text) : MemoryFiles → Option Text
  | [] => none
  | (other, content) :: rest => if other = name then some content else get? name rest

def put (name content : Text) : MemoryFiles → MemoryFiles
  | [] => [(name, content)]
  | (other, old) :: rest =>
    if other = name then (name, content) :: rest else (other, old) :: put name content rest

def emit : Emitter MemoryFiles := fun name content replaces => do
  let files := (← get).store
  if !replaces && (get? name files).isSome then return none
  else
    modify fun progress => { progress with store := put name content progress.store }
    return some name

end MemoryFiles

end ApiClient
