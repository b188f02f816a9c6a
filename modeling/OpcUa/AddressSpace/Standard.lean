import OpcUa.AddressSpace.Basic

/-!
The standard nodes of namespace zero, with which a server starts.
-/

namespace OpcUa.AddressSpace

/-- The standard nodes: their numbers, classes and browse names. -/
def standardNodes : List (NodeId × NodeClass × String) := [
  (.references, .referenceType, "References"),
  (.hierarchicalReferences, .referenceType, "HierarchicalReferences"),
  (.organizes, .referenceType, "Organizes"),
  (.hasModellingRule, .referenceType, "HasModellingRule"),
  (.hasTypeDefinition, .referenceType, "HasTypeDefinition"),
  (.hasSubtype, .referenceType, "HasSubtype"),
  (.hasProperty, .referenceType, "HasProperty"),
  (.hasComponent, .referenceType, "HasComponent"),
  (.baseDataType, .dataType, "BaseDataType"),
  (.baseObjectType, .objectType, "BaseObjectType"),
  (.folderType, .objectType, "FolderType"),
  (.modellingRuleType, .objectType, "ModellingRuleType"),
  (.baseDataVariableType, .variableType, "BaseDataVariableType"),
  (.propertyType, .variableType, "PropertyType"),
  (.rootFolder, .object, "Root"),
  (.objectsFolder, .object, "Objects"),
  (.typesFolder, .object, "Types"),
  (.viewsFolder, .object, "Views")] ++
  ModellingRule.all.map fun rule => (rule.nodeId, .object, rule.browseName)

/-- The references among the standard nodes: subtypes below their supertypes, the folders below
the root, and the types of folders and modelling rules. -/
def standardReferences : List Reference := [
  ⟨.references, .hasSubtype, .hierarchicalReferences⟩,
  ⟨.references, .hasSubtype, .hasTypeDefinition⟩,
  ⟨.references, .hasSubtype, .hasModellingRule⟩,
  ⟨.hierarchicalReferences, .hasSubtype, .organizes⟩,
  ⟨.hierarchicalReferences, .hasSubtype, .hasSubtype⟩,
  ⟨.hierarchicalReferences, .hasSubtype, .hasProperty⟩,
  ⟨.hierarchicalReferences, .hasSubtype, .hasComponent⟩,
  ⟨.baseObjectType, .hasSubtype, .folderType⟩,
  ⟨.baseObjectType, .hasSubtype, .modellingRuleType⟩,
  ⟨.rootFolder, .hasTypeDefinition, .folderType⟩,
  ⟨.objectsFolder, .hasTypeDefinition, .folderType⟩,
  ⟨.rootFolder, .organizes, .objectsFolder⟩,
  ⟨.typesFolder, .hasTypeDefinition, .folderType⟩,
  ⟨.rootFolder, .organizes, .typesFolder⟩,
  ⟨.viewsFolder, .hasTypeDefinition, .folderType⟩,
  ⟨.rootFolder, .organizes, .viewsFolder⟩] ++
  ModellingRule.all.map fun rule => ⟨rule.nodeId, .hasTypeDefinition, .modellingRuleType⟩

/-- A standard node under its identifier. -/
def standardEntry (entry : NodeId × NodeClass × String) : NodeId × Node :=
  (entry.1, .ofClass entry.1 entry.2.1 ⟨entry.1.namespaceIndex, entry.2.2⟩)

theorem nodup_standardNodes : ((standardNodes.map standardEntry).map Prod.fst).Nodup := by
  decide

def standard : AddressSpace where
  table := ⟨standardNodes.map standardEntry, nodup_standardNodes⟩
  references := standardReferences
  nextId := firstAssigned

instance : Inhabited AddressSpace := ⟨standard⟩

end OpcUa.AddressSpace
