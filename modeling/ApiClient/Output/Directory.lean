import ApiClient.Output.Emission

/-! Files written below an output directory, which is made when it is needed. The directories that a
file name leads through must be there. -/

namespace ApiClient

/-- The files, and the paths of those that were written. -/
structure DirectoryFiles where
  tree : FileTree
  written : List Text := []
  deriving Repr

namespace DirectoryFiles

def useTree (path : Path) (outcome : Except AccessFault α) : Emission DirectoryFiles α :=
  match outcome with
  | .ok value => return value
  | .error (.refused reason place) =>
    throw (.fault (.output path.text (some (.access (.refused reason place)))))
  | .error fault => throw (.cause (.access fault))

def setTree (tree : FileTree) : Emission DirectoryFiles Unit :=
  modify fun progress => { progress with store := { progress.store with tree } }

def emit (output : Path) : Emitter DirectoryFiles := fun name content replaces => do
  let path := output.join (Path.ofText name)
  let tree := (← get).store.tree
  let isKept ← if replaces then pure false else useTree path (tree.contains path)
  if isKept then
    Emission.note .info ("Keeping existing " ++ path.text)
    return none
  else
    let ⟨tree, made⟩ := tree.makeDirectories output
    setTree tree
    useTree path made
    setTree (← useTree path (tree.write path []))
    let octets ← liftExcept
      ((Text.Utf8.encode content).mapError fun fault => Failure.cause (.unencodable fault))
    setTree (← useTree path (tree.write path octets))
    Emission.note .info ("Wrote " ++ path.text)
    modify fun progress =>
      { progress with
        store := { progress.store with written := progress.store.written ++ [path.text] } }
    return some path.text

end DirectoryFiles

end ApiClient
