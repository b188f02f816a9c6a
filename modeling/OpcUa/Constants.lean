import OpcUa.NodeId
import OpcUa.StatusCode

/-!
The status codes and the standard nodes that have constants, by the names of the constants.
-/

namespace OpcUa

def StatusCode.constants : List (String × StatusCode) := [
  ("GOOD", .good),
  ("UNCERTAIN_REFERENCE_NOT_DELETED", .uncertainReferenceNotDeleted),
  ("BAD_UNEXPECTED_ERROR", .badUnexpectedError),
  ("BAD_INTERNAL_ERROR", .badInternalError),
  ("BAD_COMMUNICATION_ERROR", .badCommunicationError),
  ("BAD_TIMEOUT", .badTimeout),
  ("BAD_SHUTDOWN", .badShutdown),
  ("BAD_SERVER_NOT_CONNECTED", .badServerNotConnected),
  ("BAD_TOO_MANY_OPERATIONS", .badTooManyOperations),
  ("BAD_NODE_ID_UNKNOWN", .badNodeIdUnknown),
  ("BAD_ATTRIBUTE_ID_INVALID", .badAttributeIdInvalid),
  ("BAD_NOT_WRITABLE", .badNotWritable),
  ("BAD_NOT_FOUND", .badNotFound),
  ("BAD_REFERENCE_TYPE_ID_INVALID", .badReferenceTypeIdInvalid),
  ("BAD_PARENT_NODE_ID_INVALID", .badParentNodeIdInvalid),
  ("BAD_REFERENCE_NOT_ALLOWED", .badReferenceNotAllowed),
  ("BAD_NODE_ID_EXISTS", .badNodeIdExists),
  ("BAD_NODE_CLASS_INVALID", .badNodeClassInvalid),
  ("BAD_BROWSE_NAME_INVALID", .badBrowseNameInvalid),
  ("BAD_NODE_ATTRIBUTES_INVALID", .badNodeAttributesInvalid),
  ("BAD_TYPE_DEFINITION_INVALID", .badTypeDefinitionInvalid),
  ("BAD_SOURCE_NODE_ID_INVALID", .badSourceNodeIdInvalid),
  ("BAD_TARGET_NODE_ID_INVALID", .badTargetNodeIdInvalid),
  ("BAD_DUPLICATE_REFERENCE_NOT_ALLOWED", .badDuplicateReferenceNotAllowed),
  ("BAD_TYPE_MISMATCH", .badTypeMismatch),
  ("BAD_CONFIGURATION_ERROR", .badConfigurationError),
  ("BAD_DISCONNECT", .badDisconnect),
  ("BAD_CONNECTION_CLOSED", .badConnectionClosed)]

def NodeId.constants : List (String × NodeId) := [
  ("ROOT_FOLDER", .rootFolder),
  ("OBJECTS_FOLDER", .objectsFolder),
  ("TYPES_FOLDER", .typesFolder),
  ("VIEWS_FOLDER", .viewsFolder),
  ("BASE_OBJECT_TYPE", .baseObjectType),
  ("FOLDER_TYPE", .folderType),
  ("BASE_DATA_VARIABLE_TYPE", .baseDataVariableType),
  ("PROPERTY_TYPE", .propertyType),
  ("MODELLING_RULE_TYPE", .modellingRuleType),
  ("REFERENCES", .references),
  ("HIERARCHICAL_REFERENCES", .hierarchicalReferences),
  ("ORGANIZES", .organizes),
  ("HAS_MODELLING_RULE", .hasModellingRule),
  ("HAS_TYPE_DEFINITION", .hasTypeDefinition),
  ("HAS_SUBTYPE", .hasSubtype),
  ("HAS_PROPERTY", .hasProperty),
  ("HAS_COMPONENT", .hasComponent),
  ("BASE_DATA_TYPE", .baseDataType)]

end OpcUa
