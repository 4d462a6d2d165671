import ApiTests.Evidence.Reports

/-!
# The dependency tree

Model of `parse_dependency_tree` (`dependency_evidence.py:325-402, 770-793`): uv's tree becomes a
document whose node ids are made of kinds, names and versions.

Results:
* `parseDependencyTree_nodup`: the package set has each name once.
-/

namespace ApiTests.Evidence

open Py Dependencies

variable (library : Library)

/-- `EVIDENCE_SCHEMA`. -/
def evidenceSchema : Json PyNumber := .number (.int 1)

/-- A node of the tree: its id in uv's document, its stable id and kind, and its item. -/
structure TreeNode where
  original : Text
  id : Text
  kind : Text
  item : List (Text × Json PyNumber)

/-- The member of a dict that is a text. -/
def textMember (value : Json PyNumber) (key : Text) : Option Text :=
  match value with
  | .dict entries =>
    match member entries key with
    | .str t => some t
    | _ => none
  | _ => none

/-- `_tree_node_identity`: the stable id and the kind. -/
def treeNodeIdentity (item : List (Text × Json PyNumber)) : Except Failure (Text × Text) :=
  if memberIs item (lit "kind") (lit "workspace") then .ok (lit "workspace", lit "workspace")
  else
    match member item (lit "name"), member item (lit "version") with
    | .str name, .str version =>
      let normalizedName := canonicalizeName library.lower name
      if memberIs item (lit "kind") (lit "package") then
        match member item (lit "source") with
        | .dict source =>
          if lit "editable" ∈ source.map Prod.fst then
            if normalizedName ≠ projectName then
              evidenceError (lit "uv dependency tree has an unexpected editable")
            else .ok (lit "project:" ++ normalizedName ++ lit "==" ++ version, lit "project")
          else .ok (lit "package:" ++ normalizedName ++ lit "==" ++ version, lit "package")
        | _ => evidenceError (lit "uv dependency tree package needs a source")
      else
        match textMember (member item (lit "kind")) (lit "group") with
        | some group => .ok (lit "group:" ++ group, lit "group")
        | none =>
          match textMember (member item (lit "kind")) (lit "extra") with
          | some extra =>
            .ok (lit "extra:" ++ normalizedName ++ lit "[" ++ extra ++ lit "]==" ++ version, lit "extra")
          | none =>
            match library.repr (member item (lit "kind")) with
            | some kind =>
              evidenceError (lit "uv dependency tree has an unsupported node kind: " ++ kind)
            | none => .error .other
    | _, _ => evidenceError (lit "uv dependency tree node needs name and version strings")

/-- A node of the resolution. -/
def readNode (entry : Text × Json PyNumber) : Except Failure TreeNode := do
  let item ← asDict (.evidenceError (lit "uv dependency tree has a malformed resolution node")) entry.2
  let (id, kind) ← treeNodeIdentity library item
  .ok ⟨entry.1, id, kind, item⟩

/-- A node with its record, if it is a package. -/
def packageOf (node : TreeNode) : Except Failure (TreeNode × Option (Text × Text)) :=
  if node.kind = lit "package" then
    match member node.item (lit "name"), member node.item (lit "version") with
    | .str name, .str version => .ok (node, some (name, version))
    | _, _ => evidenceError (lit "uv dependency tree package " ++ library.quoted node.id ++
        lit " needs name and version")
  else .ok (node, none)

/-- The first loop: the nodes, no stable id twice. -/
def readNodes (resolution : List (Text × Json PyNumber)) :
    Except Failure (List (TreeNode × Option (Text × Text))) :=
  collect (readNode library) TreeNode.id
    (fun _ node => .evidenceError (lit "uv dependency tree has duplicate node " ++ library.quoted node.id))
    (packageOf library) [] resolution

/-- The stable id behind a reference `{"id": …}`. -/
def stableReference (stableIds : List (Text × Text)) (malformed unknown : Text)
    (reference : Json PyNumber) : Except Failure Text :=
  match textMember reference (lit "id") with
  | none => evidenceError malformed
  | some id =>
    match stableIds.lookup id with
    | none => evidenceError unknown
    | some stableId => .ok stableId

/-- A list of texts, sorted, as JSON. -/
def sortedTexts (texts : List Text) : Json PyNumber := .list ((sortTexts texts).map .str)

/-- The document of a node. -/
def nodeDocument (stableIds : List (Text × Text)) (node : TreeNode) : Except Failure (Json PyNumber) := do
  let about := lit "uv dependency tree node " ++ library.quoted node.id
  let dependencies ← asList (.evidenceError (about ++ lit " has invalid dependencies"))
    (memberD node.item (lit "dependencies") (.list []))
  let stableDependencies ← readAll (stableReference stableIds (about ++ lit " has a malformed dependency")
    (about ++ lit " references an unknown node")) dependencies
  .ok (.dict [(lit "id", .str node.id), (lit "kind", .str node.kind),
    (lit "dependencies", sortedTexts stableDependencies)])

/-- `DependencyTree`. -/
structure DependencyTree where
  packages : List PackageRecord
  document : Json PyNumber

/-- `parse_dependency_tree`. -/
def parseDependencyTree (raw : Text) : Except Failure DependencyTree := do
  let value ← decodeJson library raw (lit "uv dependency tree")
  let entries ← asDict (.evidenceError (lit "uv dependency tree must be an object")) value
  let missing := Failure.evidenceError (lit "uv dependency tree needs resolution and roots fields")
  let resolution ← asDict missing (member entries (lit "resolution"))
  let roots ← asList missing (member entries (lit "roots"))
  let read ← readNodes library resolution
  let stableIds := read.map fun node => (node.1.original, node.1.id)
  let nodes ← readAll (nodeDocument library stableIds) (sortBy TreeNode.id (read.map Prod.fst))
  let stableRoots ← readAll (stableReference stableIds
    (lit "uv dependency tree contains a malformed root")
    (lit "uv dependency tree contains an unknown root")) roots
  let packages ← normalizePackageRecords library.lower (lit "uv dependency tree packages")
    (read.filterMap Prod.snd)
  .ok ⟨packages, .dict [(lit "schema_version", evidenceSchema),
    (lit "source", .str (lit "uv tree --frozen --all-groups --format json")),
    (lit "roots", sortedTexts stableRoots), (lit "nodes", .list nodes)]⟩

variable {library}

theorem parseDependencyTree_nodup {raw : Text} {tree : DependencyTree}
    (h : parseDependencyTree library raw = .ok tree) : (tree.packages.map PackageRecord.name).Nodup := by
  obtain ⟨value, -, h⟩ := bind_eq_ok_iff.mp h
  obtain ⟨entries, -, h⟩ := bind_eq_ok_iff.mp h
  obtain ⟨resolution, -, h⟩ := bind_eq_ok_iff.mp h
  obtain ⟨roots, -, h⟩ := bind_eq_ok_iff.mp h
  obtain ⟨read, -, h⟩ := bind_eq_ok_iff.mp h
  obtain ⟨nodes, -, h⟩ := bind_eq_ok_iff.mp h
  obtain ⟨stableRoots, -, h⟩ := bind_eq_ok_iff.mp h
  obtain ⟨packages, hpackages, h⟩ := bind_eq_ok_iff.mp h
  cases h
  exact normalizePackageRecords_nodup hpackages

end ApiTests.Evidence
