import TypedStyle.Files.Tree
/-!
# Changes of a tree

Beside the operations of a system of files there are two that arrange a tree as a whole: planting
something with all the folders above it, and removing a place with all below it.  Two trees can be
compared, place by place.
-/

namespace TypedStyle.FileTree

/-- The tree with a folder at a place where nothing stands yet. -/
def ensureFolder (tree : FileTree) (place : Place) : FileTree :=
  match tree.at? place with
  | some _ => tree
  | none => tree.put place .folder

/-- The tree with something at a place, in folders that are made as far as they are missing. -/
def plant (tree : FileTree) (place : Place) (node : FileNode) : FileTree :=
  let above := (List.range place.length).map fun n => place.take n
  (above.foldl ensureFolder tree).put place node

/-- A tree that has only its working folder and those above it. -/
def bare (home : Place) : FileTree :=
  FileTree.plant ⟨home, []⟩ home .folder

/-- The tree without what stands at a place or below it. -/
def remove (tree : FileTree) (place : Place) : FileTree :=
  { tree with nodes := tree.nodes.filter fun entry => !place.isPrefixOf entry.1 }

/-- What stands at the places that differ from those of an earlier tree, from the working folder
down. -/
def changes (before after : FileTree) : List (Place × Option FileNode) :=
  let places := ((before.nodes ++ after.nodes).map Prod.fst).eraseDups
  let changed := places.filter fun place =>
    after.home.isPrefixOf place && before.at? place ≠ after.at? place
  changed.map fun place => (place.drop after.home.length, after.at? place)

end TypedStyle.FileTree
