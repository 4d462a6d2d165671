import ApiTests.Evidence.Tree
import ApiTests.Py.Rearranged
import Mathlib.Logic.Relator

/-!
# The dependency tree does not depend on the machine

uv's node ids hold paths and URLs. `parse_dependency_tree` (`dependency_evidence.py:325-402, 770-793`)
replaces them by ids made of kinds, names and versions. `TreeRenamed ρ` relates two trees of uv that
differ in their node ids, which `ρ` pairs one to one, in the order of nodes, dependencies and roots, and
in the paths and URLs of the source tables.

Results:
* `treeNodeIdentity_renamed`: the stable id of a node is that of its partner.
* `lookup_renamed`: **partners lead to one stable id.**
* `parseDependencyTree_renamed`: a tree that is accepted is accepted with other ids, with one result.
* `graph_preserved`: **the document has each node, each edge and each root of uv's tree.**
* **`dependency_tree_stable`**: both, for any two trees related so.
-/

namespace ApiTests.Evidence

open Py Dependencies

/-! ## Trees that differ in ids, order, paths and URLs -/

/-- A source table with other paths and URLs. -/
inductive SourceChanged : Json PyNumber → Json PyNumber → Prop
  | table {source source' : List (Text × Json PyNumber)}
      (keys : ∀ key, key ∈ source.map Prod.fst ↔ key ∈ source'.map Prod.fst)
      (others : ∀ key, key ≠ lit "editable" → key ≠ lit "registry" →
        member source' key = member source key) : SourceChanged (.dict source) (.dict source')
  | other {value : Json PyNumber} (h : ∀ source, value ≠ .dict source) : SourceChanged value value

section Renamed

variable (ρ : Text → Text → Prop)

/-- References to partners; what is no reference is one on both sides. -/
def ReferenceRenamed (reference reference' : Json PyNumber) : Prop :=
  Option.Rel ρ (textMember reference (lit "id")) (textMember reference' (lit "id"))

/-- References to partners, in any order. -/
inductive ReferencesRenamed : Json PyNumber → Json PyNumber → Prop
  | list {references references' : List (Json PyNumber)}
      (h : Rearranged (ReferenceRenamed ρ) references references') :
      ReferencesRenamed (.list references) (.list references')
  | other {value : Json PyNumber} (h : ∀ references, value ≠ .list references) :
      ReferencesRenamed value value

/-- The item of a node and that of its partner. -/
structure ItemRenamed (item item' : List (Text × Json PyNumber)) : Prop where
  others : ∀ key, key ≠ lit "dependencies" → key ≠ lit "source" → member item' key = member item key
  source : SourceChanged (member item (lit "source")) (member item' (lit "source"))
  dependencies : ReferencesRenamed ρ (memberD item (lit "dependencies") (.list []))
    (memberD item' (lit "dependencies") (.list []))

inductive NodeRenamed : Json PyNumber → Json PyNumber → Prop
  | item {item item' : List (Text × Json PyNumber)} (h : ItemRenamed ρ item item') :
      NodeRenamed (.dict item) (.dict item')
  | other {value : Json PyNumber} (h : ∀ item, value ≠ .dict item) : NodeRenamed value value

/-- An entry of the resolution and its partner. -/
def EntryRenamed (entry entry' : Text × Json PyNumber) : Prop :=
  ρ entry.1 entry'.1 ∧ NodeRenamed ρ entry.2 entry'.2

/-- The entries of the resolution, in any order. -/
inductive ResolutionRenamed : Json PyNumber → Json PyNumber → Prop
  | dict {entries entries' : List (Text × Json PyNumber)} (h : Rearranged (EntryRenamed ρ) entries entries') :
      ResolutionRenamed (.dict entries) (.dict entries')
  | other {value : Json PyNumber} (h : ∀ entries, value ≠ .dict entries) : ResolutionRenamed value value

/-- **Two trees of uv that differ in node ids, order, paths and URLs.** -/
inductive TreeRenamed : Json PyNumber → Json PyNumber → Prop
  | dict {entries entries' : List (Text × Json PyNumber)}
      (resolution : ResolutionRenamed ρ (member entries (lit "resolution"))
        (member entries' (lit "resolution")))
      (roots : ReferencesRenamed ρ (member entries (lit "roots")) (member entries' (lit "roots"))) :
      TreeRenamed (.dict entries) (.dict entries')
  | other {value : Json PyNumber} (h : ∀ entries, value ≠ .dict entries) : TreeRenamed value value

end Renamed

variable {library : Library} {ρ : Text → Text → Prop}

/-! ## The relation turned around -/

theorem SourceChanged.symm {value value' : Json PyNumber} (h : SourceChanged value value') :
    SourceChanged value' value := by
  cases h with
  | table keys others =>
    exact .table (fun key => (keys key).symm) fun key he hr => (others key he hr).symm
  | other h => exact .other h

theorem ReferenceRenamed.symm {reference reference' : Json PyNumber}
    (h : ReferenceRenamed ρ reference reference') : ReferenceRenamed (flip ρ) reference' reference := by
  unfold ReferenceRenamed at h ⊢
  generalize textMember reference (lit "id") = id at h ⊢
  generalize textMember reference' (lit "id") = id' at h ⊢
  cases h with
  | some h => exact .some h
  | none => exact .none

theorem ReferencesRenamed.symm {value value' : Json PyNumber} (h : ReferencesRenamed ρ value value') :
    ReferencesRenamed (flip ρ) value' value := by
  cases h with
  | list h => exact .list (h.symm.imp fun _ _ _ _ h => h.symm)
  | other h => exact .other h

theorem ItemRenamed.symm {item item' : List (Text × Json PyNumber)} (h : ItemRenamed ρ item item') :
    ItemRenamed (flip ρ) item' item :=
  ⟨fun key hd hs => (h.others key hd hs).symm, h.source.symm, h.dependencies.symm⟩

theorem NodeRenamed.symm {value value' : Json PyNumber} (h : NodeRenamed ρ value value') :
    NodeRenamed (flip ρ) value' value := by
  cases h with
  | item h => exact .item h.symm
  | other h => exact .other h

theorem ResolutionRenamed.symm {value value' : Json PyNumber} (h : ResolutionRenamed ρ value value') :
    ResolutionRenamed (flip ρ) value' value := by
  cases h with
  | dict h => exact .dict (h.symm.imp fun _ _ _ _ h => ⟨h.1, h.2.symm⟩)
  | other h => exact .other h

theorem TreeRenamed.symm {value value' : Json PyNumber} (h : TreeRenamed ρ value value') :
    TreeRenamed (flip ρ) value' value := by
  cases h with
  | dict resolution roots => exact .dict resolution.symm roots.symm
  | other h => exact .other h

/-! ## Nodes -/

theorem asDict_eq_ok {e : Failure} {value : Json PyNumber} {entries : List (Text × Json PyNumber)} :
    asDict e value = .ok entries ↔ value = .dict entries := by
  cases value <;> simp [asDict]

theorem asList_eq_ok {e : Failure} {value : Json PyNumber} {items : List (Json PyNumber)} :
    asList e value = .ok items ↔ value = .list items := by
  cases value <;> simp [asList]

/-- **The stable id of a node is that of its partner.** -/
theorem treeNodeIdentity_renamed {item item' : List (Text × Json PyNumber)}
    (h : ItemRenamed ρ item item') : treeNodeIdentity library item' = treeNodeIdentity library item := by
  have hkind := h.others (lit "kind") (by decide) (by decide)
  have hname := h.others (lit "name") (by decide) (by decide)
  have hversion := h.others (lit "version") (by decide) (by decide)
  unfold treeNodeIdentity memberIs
  rw [hkind, hname, hversion]
  have hsource := h.source
  generalize member item (lit "source") = source at hsource ⊢
  generalize member item' (lit "source") = source' at hsource ⊢
  cases hsource with
  | table keys _ => simp only [keys]
  | other _ => rfl

/-- A node and its partner. -/
structure NodeMatch (ρ : Text → Text → Prop) (node node' : TreeNode) : Prop where
  original : ρ node.original node'.original
  id : node.id = node'.id
  kind : node.kind = node'.kind
  item : ItemRenamed ρ node.item node'.item

/-- A node that is read, with its record. -/
def ReadMatch (ρ : Text → Text → Prop) (read read' : TreeNode × Option (Text × Text)) : Prop :=
  NodeMatch ρ read.1 read'.1 ∧ read.2 = read'.2

theorem readNode_eq_ok {entry : Text × Json PyNumber} {node : TreeNode} :
    readNode library entry = .ok node ↔ ∃ item id kind, entry.2 = .dict item ∧
      treeNodeIdentity library item = .ok (id, kind) ∧ node = ⟨entry.1, id, kind, item⟩ := by
  unfold readNode
  rw [bind_eq_ok_iff]
  constructor
  · rintro ⟨item, hitem, h⟩
    obtain ⟨⟨id, kind⟩, hidentity, h⟩ := bind_eq_ok_iff.mp h
    cases h
    cases hvalue : entry.2 with
    | dict entries =>
      rw [hvalue] at hitem
      cases hitem
      exact ⟨_, id, kind, rfl, hidentity, rfl⟩
    | _ =>
      rw [hvalue] at hitem
      cases hitem
  · rintro ⟨item, id, kind, hvalue, hidentity, rfl⟩
    exact ⟨item, by rw [hvalue]; rfl, bind_eq_ok_iff.mpr ⟨(id, kind), hidentity, rfl⟩⟩

theorem readNode_renamed {entry entry' : Text × Json PyNumber} {node : TreeNode}
    (h : EntryRenamed ρ entry entry') (hread : readNode library entry = .ok node) :
    ∃ node', readNode library entry' = .ok node' ∧ NodeMatch ρ node node' := by
  obtain ⟨item, id, kind, hvalue, hidentity, rfl⟩ := readNode_eq_ok.mp hread
  obtain ⟨key, value⟩ := entry
  obtain ⟨key', value'⟩ := entry'
  obtain ⟨hkey, hnode⟩ := h
  cases hnode with
  | other hother => exact absurd hvalue (hother item)
  | item hitem =>
    cases hvalue
    refine ⟨⟨key', id, kind, _⟩, readNode_eq_ok.mpr ⟨_, id, kind, rfl, ?_, rfl⟩, ⟨hkey, rfl, rfl, hitem⟩⟩
    rw [treeNodeIdentity_renamed hitem]
    exact hidentity

theorem packageOf_fst {node : TreeNode} {read : TreeNode × Option (Text × Text)}
    (h : packageOf library node = .ok read) : read.1 = node := by
  unfold packageOf at h
  split at h
  · split at h
    · cases h
      rfl
    · cases h
  · cases h
    rfl

theorem packageOf_renamed {node node' : TreeNode} {read : TreeNode × Option (Text × Text)}
    (h : NodeMatch ρ node node') (hread : packageOf library node = .ok read) :
    ∃ read', packageOf library node' = .ok read' ∧ ReadMatch ρ read read' := by
  have hfst := packageOf_fst hread
  refine ⟨(node', read.2), ?_, by rw [hfst]; exact h, rfl⟩
  unfold packageOf at hread ⊢
  rw [← h.kind, h.item.others (lit "name") (by decide) (by decide),
    h.item.others (lit "version") (by decide) (by decide)]
  by_cases hkind : node.kind = lit "package"
  · rw [if_pos hkind] at hread ⊢
    split at hread
    · rename_i name version hname hversion
      cases hread
      rfl
    · cases hread
  · rw [if_neg hkind] at hread ⊢
    cases hread
    rfl

/-- **What the first loop reads of renamed entries** is renamed with them. -/
theorem readNodes_renamed {resolution resolution' : List (Text × Json PyNumber)}
    {read : List (TreeNode × Option (Text × Text))} (h : Rearranged (EntryRenamed ρ) resolution resolution')
    (hread : readNodes library resolution = .ok read) :
    ∃ read', readNodes library resolution' = .ok read' ∧ Rearranged (ReadMatch ρ) read read' := by
  obtain ⟨nodes, hnodes, hnodup, -, hpackages⟩ := collect_eq_ok.mp hread
  obtain ⟨nodes', hnodes', hmatch⟩ := h.forall₂_left hnodes
    (fun entry _ entry' _ node hentry hnode => readNode_renamed hentry hnode)
  obtain ⟨read', hpackages', hmatch'⟩ := hmatch.forall₂_left hpackages
    (fun node _ node' _ c hnode hc => packageOf_renamed hnode hc)
  have hids := hmatch.map_perm fun node node' (hnode : NodeMatch ρ node node') => hnode.id
  refine ⟨read', collect_eq_ok.mpr ⟨nodes', hnodes', hids.nodup_iff.mp hnodup, ?_, hpackages'⟩, hmatch'⟩
  exact fun _ _ s hs => absurd hs List.not_mem_nil

/-- No stable id is read twice. -/
theorem readNodes_nodup {resolution : List (Text × Json PyNumber)}
    {read : List (TreeNode × Option (Text × Text))} (h : readNodes library resolution = .ok read) :
    ((read.map Prod.fst).map TreeNode.id).Nodup := by
  obtain ⟨nodes, -, hnodup, -, hpackages⟩ := collect_eq_ok.mp h
  have heq : nodes.map TreeNode.id = read.map fun c => c.1.id :=
    map_eq_map_of_forall₂ hpackages fun node c hc => by rw [packageOf_fst hc]
  rw [List.map_map]
  rwa [heq] at hnodup

/-! ## References -/

/-- The stable ids that the first loop notes. -/
def stableIdsOf (read : List (TreeNode × Option (Text × Text))) : List (Text × Text) :=
  read.map fun node => (node.1.original, node.1.id)

/-- The first loop keeps the ids of uv, which are keys of a dict. -/
theorem map_fst_stableIdsOf {resolution : List (Text × Json PyNumber)}
    {read : List (TreeNode × Option (Text × Text))} (h : readNodes library resolution = .ok read) :
    (stableIdsOf read).map Prod.fst = resolution.map Prod.fst := by
  obtain ⟨nodes, hnodes, -, -, hpackages⟩ := collect_eq_ok.mp h
  have hkeys : resolution.map Prod.fst = nodes.map TreeNode.original := by
    refine map_eq_map_of_forall₂ hnodes fun entry node hnode => ?_
    obtain ⟨item, id, kind, -, -, rfl⟩ := readNode_eq_ok.mp hnode
    rfl
  have hnodesRead : nodes.map TreeNode.original = read.map fun c => c.1.original :=
    map_eq_map_of_forall₂ hpackages fun node c hc => by rw [packageOf_fst hc]
  rw [hkeys, hnodesRead, stableIdsOf, List.map_map]
  rfl

/-- **Partners lead to one stable id.** -/
theorem lookup_renamed (hρ : Relator.RightUnique ρ)
    {read read' : List (TreeNode × Option (Text × Text))} (h : Rearranged (ReadMatch ρ) read read')
    (hkeys' : ((stableIdsOf read').map Prod.fst).Nodup) {id id' stableId : Text} (hid : ρ id id')
    (hlookup : (stableIdsOf read).lookup id = some stableId) :
    (stableIdsOf read').lookup id' = some stableId := by
  obtain ⟨l₁, l₂, heq, -⟩ := List.lookup_eq_some_iff.mp hlookup
  have hmem : (id, stableId) ∈ stableIdsOf read := by
    rw [heq]
    exact List.mem_append_right _ List.mem_cons_self
  obtain ⟨c, hc, hpair⟩ := List.mem_map.mp hmem
  cases hpair
  obtain ⟨c', hc', hmatch⟩ := h.exists_mem hc
  have hid' : c'.1.original = id' := hρ hmatch.1.original hid
  refine Dict.lookup_of_mem hkeys' (List.mem_map.mpr ⟨c', hc', ?_⟩)
  rw [hid', hmatch.1.id]

theorem stableReference_eq_ok {stableIds : List (Text × Text)} {malformed unknown stableId : Text}
    {reference : Json PyNumber} :
    stableReference stableIds malformed unknown reference = .ok stableId ↔
      ∃ id, textMember reference (lit "id") = some id ∧ stableIds.lookup id = some stableId := by
  unfold stableReference
  cases textMember reference (lit "id") with
  | none => exact iff_of_false evidenceError_ne_ok fun ⟨_, h, _⟩ => by cases h
  | some id =>
    cases hlookup : stableIds.lookup id with
    | none =>
      refine iff_of_false (by simp [hlookup]) ?_
      rintro ⟨id', h, hlookup'⟩
      cases h
      rw [hlookup] at hlookup'
      cases hlookup'
    | some found => simp [hlookup]

/-- **Renamed references lead to the same stable ids**, in some order. -/
theorem references_renamed (hρ : Relator.RightUnique ρ)
    {read read' : List (TreeNode × Option (Text × Text))} (h : Rearranged (ReadMatch ρ) read read')
    (hkeys' : ((stableIdsOf read').map Prod.fst).Nodup) {malformed unknown malformed' unknown' : Text}
    {value value' : Json PyNumber} {references : List (Json PyNumber)} {stableIds : List Text}
    (hrenamed : ReferencesRenamed ρ value value') (hlist : value = .list references)
    (hread : readAll (stableReference (stableIdsOf read) malformed unknown) references = .ok stableIds) :
    ∃ references' stableIds', value' = .list references' ∧
      readAll (stableReference (stableIdsOf read') malformed' unknown') references' = .ok stableIds' ∧
      stableIds.Perm stableIds' := by
  cases hrenamed with
  | other hother => exact absurd hlist (hother references)
  | list hrefs =>
    cases hlist
    have hstep : ∀ reference reference' stableId, ReferenceRenamed ρ reference reference' →
        stableReference (stableIdsOf read) malformed unknown reference = .ok stableId →
        stableReference (stableIdsOf read') malformed' unknown' reference' = .ok stableId := by
      intro reference reference' stableId hreference hok
      obtain ⟨id, hid, hlookup⟩ := stableReference_eq_ok.mp hok
      unfold ReferenceRenamed at hreference
      rw [hid] at hreference
      generalize hid' : textMember reference' (lit "id") = found at hreference
      cases hreference with
      | some hρid =>
        exact stableReference_eq_ok.mpr ⟨_, hid', lookup_renamed hρ h hkeys' hρid hlookup⟩
    obtain ⟨stableIds', hread', hsame⟩ := hrefs.forall₂_left (readAll_eq_ok.mp hread)
      (fun reference _ reference' _ stableId hreference hok =>
        ⟨stableId, hstep reference reference' stableId hreference hok, rfl⟩)
    refine ⟨_, stableIds', rfl, readAll_eq_ok.mpr hread', ?_⟩
    have hperm := hsame.map_perm (f := fun t => t) (g := fun t => t) fun _ _ heq => heq
    rwa [List.map_id', List.map_id'] at hperm

theorem sortedTexts_perm {texts texts' : List Text} (h : texts.Perm texts') :
    sortedTexts texts = sortedTexts texts' := by
  unfold sortedTexts
  rw [sortTexts_perm h]

/-- The document of a node is that of its partner. -/
theorem nodeDocument_renamed (hρ : Relator.RightUnique ρ)
    {read read' : List (TreeNode × Option (Text × Text))} (h : Rearranged (ReadMatch ρ) read read')
    (hkeys' : ((stableIdsOf read').map Prod.fst).Nodup) {node node' : TreeNode}
    {document : Json PyNumber} (hnode : NodeMatch ρ node node')
    (hdocument : nodeDocument library (stableIdsOf read) node = .ok document) :
    nodeDocument library (stableIdsOf read') node' = .ok document := by
  unfold nodeDocument at hdocument ⊢
  obtain ⟨dependencies, hdependencies, hdocument⟩ := bind_eq_ok_iff.mp hdocument
  obtain ⟨stable, hstable, hdocument⟩ := bind_eq_ok_iff.mp hdocument
  cases hdocument
  obtain ⟨dependencies', stable', hdependencies', hstable', hperm⟩ :=
    references_renamed hρ h hkeys' hnode.item.dependencies (asList_eq_ok.mp hdependencies) hstable
  refine bind_eq_ok_iff.mpr ⟨dependencies', asList_eq_ok.mpr hdependencies',
    bind_eq_ok_iff.mpr ⟨stable', hstable', ?_⟩⟩
  rw [sortedTexts_perm hperm, hnode.id, hnode.kind]

/-! ## Packages -/

/-- **The order of the records does not matter.** -/
theorem normalizePackageRecords_perm {lower : Text → Text} {source : Text}
    {records records' : List (Text × Text)} {packages : List PackageRecord} (hperm : records.Perm records')
    (h : normalizePackageRecords lower source records = .ok packages) :
    normalizePackageRecords lower source records' = .ok packages := by
  obtain ⟨hcomplete, hnodup, rfl⟩ := normalizePackageRecords_eq_ok.mp h
  have hnormalized := hperm.map (normalized lower)
  refine normalizePackageRecords_eq_ok.mpr ⟨fun record hrecord => ?_, ?_, ?_⟩
  · exact hcomplete record (hperm.mem_iff.mpr hrecord)
  · exact (hnormalized.map PackageRecord.name).nodup_iff.mp hnodup
  · exact sortBy_eq_of_perm hnodup hnormalized

/-! ## The whole -/

/-- The keys of the resolution are distinct, as those of a Python dict are. -/
theorem resolution_keys {value : Json PyNumber} {entries resolution : List (Text × Json PyNumber)}
    (hvalue : value.KeysDistinct) (hdict : value = .dict entries)
    (hresolution : member entries (lit "resolution") = .dict resolution) :
    (resolution.map Prod.fst).Nodup := by
  subst hdict
  unfold member at hresolution
  cases hlookup : entries.lookup (lit "resolution") with
  | none =>
    rw [hlookup] at hresolution
    cases hresolution
  | some found =>
    rw [hlookup] at hresolution
    cases hresolution
    obtain ⟨l₁, l₂, heq, -⟩ := List.lookup_eq_some_iff.mp hlookup
    have hmem : (lit "resolution", Json.dict resolution) ∈ entries := by
      rw [heq]
      exact List.mem_append_right _ List.mem_cons_self
    exact (Json.keysDistinct_dict_iff.mp ((Json.keysDistinct_dict_iff.mp hvalue).2 _ hmem)).1

/-- What is read of an accepted tree. -/
structure TreeRead (library : Library) (value : Json PyNumber) (tree : DependencyTree)
    (resolution : List (Text × Json PyNumber)) (roots : List (Json PyNumber))
    (read : List (TreeNode × Option (Text × Text))) (nodes : List (Json PyNumber))
    (stableRoots : List Text) : Prop where
  entries : ∃ entries, value = .dict entries ∧ member entries (lit "resolution") = .dict resolution ∧
    member entries (lit "roots") = .list roots
  read_eq : readNodes library resolution = .ok read
  nodes_eq : readAll (nodeDocument library (stableIdsOf read)) (sortBy TreeNode.id (read.map Prod.fst)) =
    .ok nodes
  roots_eq : readAll (stableReference (stableIdsOf read)
    (lit "uv dependency tree contains a malformed root")
    (lit "uv dependency tree contains an unknown root")) roots = .ok stableRoots
  packages : normalizePackageRecords library.lower (lit "uv dependency tree packages")
    (read.filterMap Prod.snd) = .ok tree.packages
  document : tree.document = .dict [(lit "schema_version", evidenceSchema),
    (lit "source", .str (lit "uv tree --frozen --all-groups --format json")),
    (lit "roots", sortedTexts stableRoots), (lit "nodes", .list nodes)]

theorem parseDependencyTree_eq_ok {raw : Text} {value : Json PyNumber} {tree : DependencyTree}
    (hloads : library.loads raw = .ok value) : parseDependencyTree library raw = .ok tree ↔
      ∃ resolution roots read nodes stableRoots,
        TreeRead library value tree resolution roots read nodes stableRoots := by
  have hdecode : decodeJson library raw (lit "uv dependency tree") = .ok value := by
    unfold decodeJson
    rw [hloads]
  unfold parseDependencyTree
  rw [hdecode]
  change (asDict _ value >>= _) = _ ↔ _
  constructor
  · intro h
    obtain ⟨entries, hentries, h⟩ := bind_eq_ok_iff.mp h
    obtain ⟨resolution, hresolution, h⟩ := bind_eq_ok_iff.mp h
    obtain ⟨roots, hroots, h⟩ := bind_eq_ok_iff.mp h
    obtain ⟨read, hread, h⟩ := bind_eq_ok_iff.mp h
    obtain ⟨nodes, hnodes, h⟩ := bind_eq_ok_iff.mp h
    obtain ⟨stableRoots, hstableRoots, h⟩ := bind_eq_ok_iff.mp h
    obtain ⟨packages, hpackages, h⟩ := bind_eq_ok_iff.mp h
    cases h
    exact ⟨resolution, roots, read, nodes, stableRoots, ⟨entries, asDict_eq_ok.mp hentries,
      asDict_eq_ok.mp hresolution, asList_eq_ok.mp hroots⟩, hread, hnodes, hstableRoots, hpackages, rfl⟩
  · rintro ⟨resolution, roots, read, nodes, stableRoots, ⟨entries, hentries, hresolution, hroots⟩, hread,
      hnodes, hstableRoots, hpackages, hdocument⟩
    refine bind_eq_ok_iff.mpr ⟨entries, asDict_eq_ok.mpr hentries, ?_⟩
    refine bind_eq_ok_iff.mpr ⟨resolution, asDict_eq_ok.mpr hresolution, ?_⟩
    refine bind_eq_ok_iff.mpr ⟨roots, asList_eq_ok.mpr hroots, ?_⟩
    refine bind_eq_ok_iff.mpr ⟨read, hread, bind_eq_ok_iff.mpr ⟨nodes, hnodes, ?_⟩⟩
    refine bind_eq_ok_iff.mpr ⟨stableRoots, hstableRoots, bind_eq_ok_iff.mpr ⟨tree.packages, hpackages, ?_⟩⟩
    rw [← hdocument]

/-- **A tree that is accepted is accepted with other ids**, with one result. -/
theorem parseDependencyTree_renamed (hρ : Relator.RightUnique ρ) {raw raw' : Text}
    {value value' : Json PyNumber} (hloads : library.loads raw = .ok value)
    (hloads' : library.loads raw' = .ok value') (hvalue' : value'.KeysDistinct)
    (h : TreeRenamed ρ value value') {tree : DependencyTree}
    (hparse : parseDependencyTree library raw = .ok tree) : parseDependencyTree library raw' = .ok tree := by
  obtain ⟨resolution, roots, read, nodes, stableRoots, hread⟩ :=
    (parseDependencyTree_eq_ok hloads).mp hparse
  obtain ⟨entries, rfl, hresolution, hroots⟩ := hread.entries
  cases h with
  | other hother => exact absurd rfl (hother entries)
  | @dict _ entries' hrenamed hrootsRenamed =>
    rw [hresolution] at hrenamed
    rw [hroots] at hrootsRenamed
    generalize hresolution' : member entries' (lit "resolution") = value'' at hrenamed
    cases hrenamed with
    | other hother => exact absurd rfl (hother resolution)
    | @dict _ resolution' hentries =>
      obtain ⟨read', hread', hmatch⟩ := readNodes_renamed hentries hread.read_eq
      have hkeys' : ((stableIdsOf read').map Prod.fst).Nodup := by
        rw [map_fst_stableIdsOf hread']
        exact resolution_keys hvalue' rfl hresolution'
      obtain ⟨roots', stableRoots', hroots', hstableRoots', hperm⟩ :=
        references_renamed hρ hmatch hkeys' hrootsRenamed rfl hread.roots_eq
      refine (parseDependencyTree_eq_ok hloads').mpr ⟨resolution', roots', read', nodes, stableRoots',
        ⟨entries', rfl, hresolution', hroots'⟩, hread', ?_, hstableRoots', ?_, ?_⟩
      · have hnodes : List.Forall₂ (NodeMatch ρ) (sortBy TreeNode.id (read.map Prod.fst))
            (sortBy TreeNode.id (read'.map Prod.fst)) := by
          refine (hmatch.map fun _ _ h => h.1).sortBy (fun _ _ hnode => hnode.id) ?_
          exact readNodes_nodup hread.read_eq
        exact readAll_eq_ok.mpr (forall₂_of_left hnodes (readAll_eq_ok.mp hread.nodes_eq)
          fun _ _ _ hnode hdocument => nodeDocument_renamed hρ hmatch hkeys' hnode hdocument)
      · have hrecords := (hmatch.map_perm fun _ _ h => h.2).filterMap id
        rw [List.filterMap_map, List.filterMap_map] at hrecords
        exact normalizePackageRecords_perm hrecords hread.packages
      · rw [hread.document, sortedTexts_perm hperm]

/-! ## The graph of the document -/

/-- A node of the document. -/
structure GraphNode where
  id : Text
  kind : Text
  dependencies : List Text
  deriving Repr, DecidableEq

def GraphNode.document (node : GraphNode) : Json PyNumber :=
  .dict [(lit "id", .str node.id), (lit "kind", .str node.kind),
    (lit "dependencies", .list (node.dependencies.map .str))]

/-- The document of a graph. -/
def treeDocument (roots : List Text) (nodes : List GraphNode) : Json PyNumber :=
  .dict [(lit "schema_version", evidenceSchema),
    (lit "source", .str (lit "uv tree --frozen --all-groups --format json")),
    (lit "roots", .list (roots.map .str)), (lit "nodes", .list (nodes.map GraphNode.document))]

/-- The references lead to the targets, each as often as it is referred to. -/
def Targets (keys : List Text) (stable : Text → Text) (references : List (Json PyNumber))
    (targets : List Text) : Prop :=
  ∃ ids : List Text, references.map (fun reference => textMember reference (lit "id")) = ids.map some ∧
    (∀ id ∈ ids, id ∈ keys) ∧ targets.Perm (ids.map stable)

/-- A node of the document is that of an entry of the resolution, with its edges. -/
def NodeOf (library : Library) (keys : List Text) (stable : Text → Text)
    (entry : Text × Json PyNumber) (node : GraphNode) : Prop :=
  node.id = stable entry.1 ∧ ∃ item references, entry.2 = .dict item ∧
    treeNodeIdentity library item = .ok (node.id, node.kind) ∧
    memberD item (lit "dependencies") (.list []) = .list references ∧
    Targets keys stable references node.dependencies

/-- **The document is uv's graph under stable ids**: they are distinct, each entry has its node with its
edges, and the roots are uv's. -/
def GraphPreserved (library : Library) (value : Json PyNumber) (tree : DependencyTree) : Prop :=
  ∃ entries resolution roots stable rootIds nodes, value = .dict entries ∧
    member entries (lit "resolution") = .dict resolution ∧ member entries (lit "roots") = .list roots ∧
    Set.InjOn stable {key | key ∈ resolution.map Prod.fst} ∧ tree.document = treeDocument rootIds nodes ∧
    Rearranged (NodeOf library (resolution.map Prod.fst) stable) resolution nodes ∧
    Targets (resolution.map Prod.fst) stable roots rootIds

/-- The stable id behind an id of uv. -/
def stableOf (read : List (TreeNode × Option (Text × Text))) (id : Text) : Text :=
  ((stableIdsOf read).lookup id).getD []

/-- References that are read lead to their targets. -/
theorem targets_of_readAll {read : List (TreeNode × Option (Text × Text))} {malformed unknown : Text}
    {references : List (Json PyNumber)} {stableIds : List Text}
    (h : readAll (stableReference (stableIdsOf read) malformed unknown) references = .ok stableIds) :
    Targets ((stableIdsOf read).map Prod.fst) (stableOf read) references (sortTexts stableIds) := by
  have hids : ∃ ids : List Text,
      references.map (fun reference => textMember reference (lit "id")) = ids.map some ∧
      (∀ id ∈ ids, id ∈ (stableIdsOf read).map Prod.fst) ∧ stableIds = ids.map (stableOf read) := by
    have hread := readAll_eq_ok.mp h
    clear h
    induction hread with
    | nil => exact ⟨[], rfl, fun _ h => absurd h List.not_mem_nil, rfl⟩
    | cons hreference _ ih =>
      obtain ⟨id, hid, hlookup⟩ := stableReference_eq_ok.mp hreference
      obtain ⟨ids, hmap, hkeys, rfl⟩ := ih
      refine ⟨id :: ids, by rw [List.map_cons, List.map_cons, hid, hmap], ?_, ?_⟩
      · refine List.forall_mem_cons.mpr ⟨?_, hkeys⟩
        obtain ⟨l₁, l₂, heq, -⟩ := List.lookup_eq_some_iff.mp hlookup
        rw [heq, List.map_append, List.map_cons]
        exact List.mem_append_right _ List.mem_cons_self
      · rw [List.map_cons, stableOf, hlookup]
        rfl
  obtain ⟨ids, hreferences, hkeys, rfl⟩ := hids
  exact ⟨ids, hreferences, hkeys, sortBy_perm _ _⟩

/-- The document of a node that is read. -/
theorem graphNode_of_document {read : List (TreeNode × Option (Text × Text))} {node : TreeNode}
    {document : Json PyNumber} (h : nodeDocument library (stableIdsOf read) node = .ok document) :
    ∃ graphNode : GraphNode, (graphNode.id = node.id ∧ graphNode.kind = node.kind ∧ ∃ references,
      memberD node.item (lit "dependencies") (.list []) = .list references ∧
      Targets ((stableIdsOf read).map Prod.fst) (stableOf read) references graphNode.dependencies) ∧
      document = graphNode.document := by
  unfold nodeDocument at h
  obtain ⟨dependencies, hdependencies, h⟩ := bind_eq_ok_iff.mp h
  obtain ⟨stable, hstable, h⟩ := bind_eq_ok_iff.mp h
  cases h
  exact ⟨⟨node.id, node.kind, sortTexts stable⟩, ⟨rfl, rfl, dependencies, asList_eq_ok.mp hdependencies,
    targets_of_readAll hstable⟩, rfl⟩

/-- The stable ids of distinct nodes are distinct. -/
theorem stableOf_injOn {resolution : List (Text × Json PyNumber)}
    {read : List (TreeNode × Option (Text × Text))} (hread : readNodes library resolution = .ok read)
    (hkeys : (resolution.map Prod.fst).Nodup) :
    (∀ c ∈ read, stableOf read c.1.original = c.1.id) ∧
      Set.InjOn (stableOf read) {key | key ∈ resolution.map Prod.fst} := by
  have hfst := map_fst_stableIdsOf hread
  have hstable : ∀ c ∈ read, stableOf read c.1.original = c.1.id := by
    intro c hc
    have hmem : (c.1.original, c.1.id) ∈ stableIdsOf read := List.mem_map.mpr ⟨c, hc, rfl⟩
    rw [stableOf, Dict.lookup_of_mem (by rw [hfst]; exact hkeys) hmem]
    rfl
  refine ⟨hstable, fun key hkey key' hkey' heq => ?_⟩
  have horiginal : ∀ key ∈ resolution.map Prod.fst, ∃ c ∈ read, c.1.original = key := by
    intro key hkey
    rw [← hfst, stableIdsOf, List.map_map] at hkey
    exact List.mem_map.mp hkey
  obtain ⟨c, hc, rfl⟩ := horiginal key hkey
  obtain ⟨c', hc', rfl⟩ := horiginal key' hkey'
  rw [hstable c hc, hstable c' hc'] at heq
  have hnodup := readNodes_nodup hread
  rw [List.map_map] at hnodup
  rw [List.inj_on_of_nodup_map hnodup hc hc' heq]

/-- **The document has each node, each edge and each root of uv's tree.** -/
theorem graph_preserved {raw : Text} {value : Json PyNumber} {tree : DependencyTree}
    (hloads : library.loads raw = .ok value) (hvalue : value.KeysDistinct)
    (hparse : parseDependencyTree library raw = .ok tree) : GraphPreserved library value tree := by
  obtain ⟨resolution, roots, read, nodes, stableRoots, hread⟩ :=
    (parseDependencyTree_eq_ok hloads).mp hparse
  obtain ⟨entries, hentries, hresolution, hroots⟩ := hread.entries
  have hkeys := resolution_keys hvalue hentries hresolution
  have hfst := map_fst_stableIdsOf hread.read_eq
  obtain ⟨hstable, hinj⟩ := stableOf_injOn hread.read_eq hkeys
  obtain ⟨graph, hgraph, hnodes⟩ := forall₂_of_made (readAll_eq_ok.mp hread.nodes_eq)
    fun _ _ h => graphNode_of_document h
  have hnodesRead : List.Forall₂ (fun entry node => readNode library entry = .ok node ∧
      stableOf read node.original = node.id) resolution (read.map Prod.fst) := by
    obtain ⟨treeNodes, htreeNodes, -, -, hpackages⟩ := collect_eq_ok.mp hread.read_eq
    have heq : treeNodes.map id = read.map Prod.fst :=
      map_eq_map_of_forall₂ hpackages fun node c hc => (packageOf_fst hc).symm
    rw [List.map_id] at heq
    rw [← heq]
    refine forall₂_imp_mem htreeNodes fun _ _ node hnode hreadNode => ⟨hreadNode, ?_⟩
    rw [heq] at hnode
    obtain ⟨c, hc, rfl⟩ := List.mem_map.mp hnode
    exact hstable c hc
  refine ⟨entries, resolution, roots, stableOf read, sortTexts stableRoots, graph, hentries, hresolution,
    hroots, hinj, ?_, ?_, ?_⟩
  · rw [hread.document, hnodes]
    rfl
  · have hsorted : Rearranged _ (read.map Prod.fst) graph :=
      (Rearranged.of_forall₂ hgraph).of_perm_left (sortBy_perm TreeNode.id (read.map Prod.fst)).symm
    obtain ⟨graph', hgraph', hperm⟩ := hsorted
    refine ⟨graph', forall₂_of_left hnodesRead.flip hgraph' fun node entry graphNode hnode hgraphNode => ?_,
      hperm⟩
    obtain ⟨hid, hkind, references, hreferences, htargets⟩ := hgraphNode
    obtain ⟨item, id, kind, hitem, hidentity, rfl⟩ := readNode_eq_ok.mp hnode.1
    rw [hfst] at htargets
    refine ⟨?_, item, references, hitem, ?_, hreferences, htargets⟩
    · rw [hid, ← hnode.2]
    · rw [hid, hkind]
      exact hidentity
  · have htargets := targets_of_readAll hread.roots_eq
    rwa [hfst] at htargets

/-- **The dependency tree does not depend on the machine.** Two trees that differ in node ids, order,
paths and URLs are both rejected or give one result; and the document of an accepted tree is its graph
under stable ids. -/
theorem dependency_tree_stable (library : Library) (ρ : Text → Text → Prop) (hρ : Relator.BiUnique ρ)
    (raw raw' : Text) (value value' : Json PyNumber) (hloads : library.loads raw = .ok value)
    (hloads' : library.loads raw' = .ok value') (hvalue : value.KeysDistinct)
    (hvalue' : value'.KeysDistinct) (h : TreeRenamed ρ value value') :
    ((∃ e e', parseDependencyTree library raw = .error e ∧ parseDependencyTree library raw' = .error e') ∨
      ∃ tree, parseDependencyTree library raw = .ok tree ∧
        parseDependencyTree library raw' = .ok tree) ∧
    ∀ tree, parseDependencyTree library raw = .ok tree → GraphPreserved library value tree := by
  refine ⟨?_, fun tree hparse => graph_preserved hloads hvalue hparse⟩
  have hflip : Relator.RightUnique (flip ρ) := fun _ _ _ h h' => hρ.1 h h'
  cases hparse : parseDependencyTree library raw with
  | ok tree => exact .inr ⟨tree, rfl, parseDependencyTree_renamed hρ.2 hloads hloads' hvalue' h hparse⟩
  | error e =>
    cases hparse' : parseDependencyTree library raw' with
    | error e' => exact .inl ⟨e, e', rfl, rfl⟩
    | ok tree =>
      have hback := parseDependencyTree_renamed hflip hloads' hloads hvalue h.symm hparse'
      rw [hparse] at hback
      cases hback

/-! ## One project in two checkouts -/

/-- `{"id": id}`. -/
def treeReference (id : String) : Json PyNumber := .dict [(lit "id", .str (lit id))]

/-- A node of kind package. -/
def treePackage (name version source place : String) (dependencies : List (Json PyNumber)) :
    Json PyNumber :=
  .dict [(lit "name", .str (lit name)), (lit "version", .str (lit version)),
    (lit "kind", .str (lit "package")), (lit "source", .dict [(lit source, .str (lit place))]),
    (lit "dependencies", .list dependencies)]

/-- The project and a package that each depend on the other. -/
def homeTree : Json PyNumber :=
  .dict [(lit "roots", .list [treeReference "project==0.1@editable+/home"]),
    (lit "resolution", .dict
      [(lit "project==0.1@editable+/home",
        treePackage "budget-analyzer-api-tests" "0.1.0" "editable" "/home"
          [treeReference "attrs==25.4.0@registry+https://pypi.org"]),
      (lit "attrs==25.4.0@registry+https://pypi.org",
        treePackage "Attrs" "25.4.0" "registry" "https://pypi.org"
          [treeReference "project==0.1@editable+/home"])])]

/-- The same under another path, from a mirror, the other way round. -/
def mirrorTree : Json PyNumber :=
  .dict [(lit "roots", .list [treeReference "project==0.1@editable+/mirror"]),
    (lit "resolution", .dict
      [(lit "attrs==25.4.0@registry+https://mirror",
        treePackage "Attrs" "25.4.0" "registry" "https://mirror"
          [treeReference "project==0.1@editable+/mirror"]),
      (lit "project==0.1@editable+/mirror",
        treePackage "budget-analyzer-api-tests" "0.1.0" "editable" "/mirror"
          [treeReference "attrs==25.4.0@registry+https://mirror"])])]

def homeText : Text := dumps (fun _ => []) homeTree

def mirrorText : Text := dumps (fun _ => []) mirrorTree

/-- `json.loads` on the texts of the two trees. -/
def loadTree (t : Text) : Except LoadsError (Json PyNumber) :=
  if t = homeText then .ok homeTree else .ok mirrorTree

/-- Python on these texts. -/
def treeLibrary : Library where
  toReader := { editableReader with loads := loadTree }
  repr _ := none
  requirement _ := .error .invalidRequirement

/-- The ids of the two checkouts. -/
inductive IdMoved : Text → Text → Prop
  | project : IdMoved (lit "project==0.1@editable+/home") (lit "project==0.1@editable+/mirror")
  | attrs : IdMoved (lit "attrs==25.4.0@registry+https://pypi.org")
      (lit "attrs==25.4.0@registry+https://mirror")

theorem idMoved_biUnique : Relator.BiUnique IdMoved := by
  constructor
  · intro id id' target h h'
    generalize heq : target = target' at h'
    cases h with
    | project =>
      cases h' with
      | project => rfl
      | attrs => exact absurd heq (by decide)
    | attrs =>
      cases h' with
      | project => exact absurd heq (by decide)
      | attrs => rfl
  · intro id target target' h h'
    generalize heq : id = id' at h'
    cases h with
    | project =>
      cases h' with
      | project => rfl
      | attrs => exact absurd heq (by decide)
    | attrs =>
      cases h' with
      | project => exact absurd heq (by decide)
      | attrs => rfl

/-- Packages whose sources have other places and whose references lead to partners. -/
theorem treePackage_moved {name version source place place' : String}
    {dependencies dependencies' : List (Json PyNumber)} (hsource : source = "editable" ∨ source = "registry")
    (h : Rearranged (ReferenceRenamed IdMoved) dependencies dependencies') :
    NodeRenamed IdMoved (treePackage name version source place dependencies)
      (treePackage name version source place' dependencies') := by
  refine .item ⟨fun key hd hs => ?_, .table (fun _ => Iff.rfl) fun key he hr => ?_, .list h⟩
  · have hd' : (key == lit "dependencies") = false := beq_eq_false_iff_ne.mpr hd
    have hs' : (key == lit "source") = false := beq_eq_false_iff_ne.mpr hs
    simp only [member, List.lookup_cons, hd', hs']
  · have hplace : (key == lit source) = false := by
      rcases hsource with rfl | rfl
      · exact beq_eq_false_iff_ne.mpr he
      · exact beq_eq_false_iff_ne.mpr hr
    simp only [member, List.lookup_cons, hplace]

theorem homeTree_moved : TreeRenamed IdMoved homeTree mirrorTree := by
  refine .dict (.dict ?_) (.list (.of_forall₂ (.cons (.some .project) .nil)))
  refine (Rearranged.of_forall₂ (.cons ⟨.project, ?_⟩ (.cons ⟨.attrs, ?_⟩ .nil))).of_perm_right
    (.swap _ _ [])
  · exact treePackage_moved (.inl rfl) (.of_forall₂ (.cons (.some .attrs) .nil))
  · exact treePackage_moved (.inr rfl) (.of_forall₂ (.cons (.some .project) .nil))

theorem homeTree_keysDistinct : homeTree.KeysDistinct := by
  simp only [homeTree, treePackage, treeReference, Json.KeysDistinct, Json.KeysDistinctEntries,
    Json.KeysDistinctItems]
  decide

theorem mirrorTree_keysDistinct : mirrorTree.KeysDistinct := by
  simp only [mirrorTree, treePackage, treeReference, Json.KeysDistinct, Json.KeysDistinctEntries,
    Json.KeysDistinctItems]
  decide

theorem treeLibrary_loads (t : Text) : treeLibrary.loads t = loadTree t := rfl

theorem treeLibrary_home : treeLibrary.loads homeText = .ok homeTree := by
  rw [treeLibrary_loads, loadTree, if_pos rfl]

theorem treeLibrary_mirror : treeLibrary.loads mirrorText = .ok mirrorTree := by
  have hne : mirrorText ≠ homeText := by decide +kernel
  rw [treeLibrary_loads, loadTree, if_neg hne]

/-- The two checkouts have one document. -/
theorem dependency_tree_stable_example :
    ((∃ e e', parseDependencyTree treeLibrary homeText = .error e ∧
        parseDependencyTree treeLibrary mirrorText = .error e') ∨
      ∃ tree, parseDependencyTree treeLibrary homeText = .ok tree ∧
        parseDependencyTree treeLibrary mirrorText = .ok tree) ∧
    ∀ tree, parseDependencyTree treeLibrary homeText = .ok tree →
      GraphPreserved treeLibrary homeTree tree :=
  dependency_tree_stable treeLibrary IdMoved idMoved_biUnique homeText mirrorText homeTree mirrorTree
    treeLibrary_home treeLibrary_mirror homeTree_keysDistinct mirrorTree_keysDistinct homeTree_moved

end ApiTests.Evidence
