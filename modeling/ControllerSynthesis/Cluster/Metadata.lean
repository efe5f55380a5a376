/-
# Metadata of objects

The metadata that every object of the cluster carries. Its record is lenient:
each field may be null or absent, and unknown fields are passed over. Points in time
are kept to the nanosecond, but written in whole seconds.

Key definitions: `Metadata`, `Metadata.shape`, `Metadata.ofJson`,
`Metadata.toJson`.
-/
import ControllerSynthesis.Calendar.Instant
import ControllerSynthesis.Json.Access
import ControllerSynthesis.Json.Equality
import ControllerSynthesis.Record.Shape

namespace ControllerSynthesis

open Record

/-- A point in time as it is written. -/
def Calendar.Instant.toJson (t : Calendar.Instant) : Json :=
  .str (String.ofList t.text)

/-- The point in time at a key. -/
def Json.instantAt? (value : Json) (key : String) : Option Calendar.Instant :=
  (value.textAt? key).bind Calendar.Instant.ofText?

/-- A reference from an object to one that owns it. -/
structure OwnerReference where
  apiVersion : String := ""
  blockOwnerDeletion : Option Bool := none
  controller : Option Bool := none
  kind : String := ""
  name : String := ""
  uid : String := ""
  deriving Repr, DecidableEq

/-- What one of its managers last did to an object, with the fields it did it to. -/
structure ManagedFields where
  apiVersion : Option String := none
  fieldsType : Option String := none
  /-- A value of any kind, with its objects in the order of their keys. -/
  fieldsV1 : Option Json := none
  manager : Option String := none
  operation : Option String := none
  subresource : Option String := none
  time : Option Calendar.Instant := none
  deriving Repr, DecidableEq

/-- The metadata of an object. -/
structure Metadata where
  annotations : Option (KeyMap String) := none
  creationTimestamp : Option Calendar.Instant := none
  deletionGracePeriodSeconds : Option Int := none
  deletionTimestamp : Option Calendar.Instant := none
  finalizers : Option (List String) := none
  generateName : Option String := none
  generation : Option Int := none
  labels : Option (KeyMap String) := none
  managedFields : Option (List ManagedFields) := none
  name : Option String := none
  namespaceName : Option String := none
  ownerReferences : Option (List OwnerReference) := none
  resourceVersion : Option String := none
  selfLink : Option String := none
  uid : Option String := none
  deriving Repr, DecidableEq

namespace OwnerReference

/-- The shape of owner references. -/
def shape : Shape :=
  .record "OwnerReference" false <|
    .cons "apiVersion" (.lenient (some (.str ""))) .text <|
    .cons "blockOwnerDeletion" (.lenient none) .flag <|
    .cons "controller" (.lenient none) .flag <|
    .cons "kind" (.lenient (some (.str ""))) .text <|
    .cons "name" (.lenient (some (.str ""))) .text <|
    .cons "uid" (.lenient (some (.str ""))) .text .nil

/-- The reference of a canonical value. -/
def ofJson (value : Json) : OwnerReference where
  apiVersion := value.textAt "apiVersion"
  blockOwnerDeletion := value.flagAt? "blockOwnerDeletion"
  controller := value.flagAt? "controller"
  kind := value.textAt "kind"
  name := value.textAt "name"
  uid := value.textAt "uid"

/-- The canonical value of a reference. -/
def toJson (r : OwnerReference) : Json :=
  .obj <|
    [("apiVersion", .str r.apiVersion)] ++
    Json.optional "blockOwnerDeletion" (r.blockOwnerDeletion.map .bool) ++
    Json.optional "controller" (r.controller.map .bool) ++
    [("kind", .str r.kind), ("name", .str r.name), ("uid", .str r.uid)]

end OwnerReference

namespace ManagedFields

/-- The shape of what a manager did. -/
def shape : Shape :=
  .record "ManagedFieldsEntry" false <|
    .cons "apiVersion" (.lenient none) .text <|
    .cons "fieldsType" (.lenient none) .text <|
    .cons "fieldsV1" (.lenient none) .any <|
    .cons "manager" (.lenient none) .text <|
    .cons "operation" (.lenient none) .text <|
    .cons "subresource" (.lenient none) .text <|
    .cons "time" (.lenient none) .timestamp .nil

/-- What a manager did, of a canonical value. -/
def ofJson (value : Json) : ManagedFields where
  apiVersion := value.textAt? "apiVersion"
  fieldsType := value.textAt? "fieldsType"
  fieldsV1 := value.member? "fieldsV1"
  manager := value.textAt? "manager"
  operation := value.textAt? "operation"
  subresource := value.textAt? "subresource"
  time := value.instantAt? "time"

/-- The canonical value of what a manager did. -/
def toJson (m : ManagedFields) : Json :=
  .obj <|
    Json.optional "apiVersion" (m.apiVersion.map .str) ++
    Json.optional "fieldsType" (m.fieldsType.map .str) ++
    Json.optional "fieldsV1" m.fieldsV1 ++
    Json.optional "manager" (m.manager.map .str) ++
    Json.optional "operation" (m.operation.map .str) ++
    Json.optional "subresource" (m.subresource.map .str) ++
    Json.optional "time" (m.time.map Calendar.Instant.toJson)

end ManagedFields

namespace Metadata

/-- The shape of metadata. -/
def shape : Shape :=
  .record "ObjectMeta" false <|
    .cons "annotations" (.lenient none) (.map .text) <|
    .cons "creationTimestamp" (.lenient none) .timestamp <|
    .cons "deletionGracePeriodSeconds" (.lenient none) (.integer .i64) <|
    .cons "deletionTimestamp" (.lenient none) .timestamp <|
    .cons "finalizers" (.lenient none) (.list .text) <|
    .cons "generateName" (.lenient none) .text <|
    .cons "generation" (.lenient none) (.integer .i64) <|
    .cons "labels" (.lenient none) (.map .text) <|
    .cons "managedFields" (.lenient none) (.list ManagedFields.shape) <|
    .cons "name" (.lenient none) .text <|
    .cons "namespace" (.lenient none) .text <|
    .cons "ownerReferences" (.lenient none) (.list OwnerReference.shape) <|
    .cons "resourceVersion" (.lenient none) .text <|
    .cons "selfLink" (.lenient none) .text <|
    .cons "uid" (.lenient none) .text .nil

/-- The metadata of a canonical value. -/
def ofJson (value : Json) : Metadata where
  annotations := value.keyMapAt? "annotations"
  creationTimestamp := value.instantAt? "creationTimestamp"
  deletionGracePeriodSeconds := value.intAt? "deletionGracePeriodSeconds"
  deletionTimestamp := value.instantAt? "deletionTimestamp"
  finalizers := value.textsAt? "finalizers"
  generateName := value.textAt? "generateName"
  generation := value.intAt? "generation"
  labels := value.keyMapAt? "labels"
  managedFields := (value.itemsAt? "managedFields").map fun items => items.map ManagedFields.ofJson
  name := value.textAt? "name"
  namespaceName := value.textAt? "namespace"
  ownerReferences := (value.itemsAt? "ownerReferences").map fun items => items.map OwnerReference.ofJson
  resourceVersion := value.textAt? "resourceVersion"
  selfLink := value.textAt? "selfLink"
  uid := value.textAt? "uid"

/-- The canonical value of metadata. -/
def toJson (m : Metadata) : Json :=
  .obj <|
    Json.optional "annotations" (m.annotations.map Json.ofKeyMap) ++
    Json.optional "creationTimestamp" (m.creationTimestamp.map Calendar.Instant.toJson) ++
    Json.optional "deletionGracePeriodSeconds" (m.deletionGracePeriodSeconds.map .int) ++
    Json.optional "deletionTimestamp" (m.deletionTimestamp.map Calendar.Instant.toJson) ++
    Json.optional "finalizers" (m.finalizers.map Json.texts) ++
    Json.optional "generateName" (m.generateName.map .str) ++
    Json.optional "generation" (m.generation.map .int) ++
    Json.optional "labels" (m.labels.map Json.ofKeyMap) ++
    Json.optional "managedFields"
      (m.managedFields.map fun items => .arr (items.map ManagedFields.toJson)) ++
    Json.optional "name" (m.name.map .str) ++
    Json.optional "namespace" (m.namespaceName.map .str) ++
    Json.optional "ownerReferences"
      (m.ownerReferences.map fun items => .arr (items.map OwnerReference.toJson)) ++
    Json.optional "resourceVersion" (m.resourceVersion.map .str) ++
    Json.optional "selfLink" (m.selfLink.map .str) ++
    Json.optional "uid" (m.uid.map .str)

end Metadata

end ControllerSynthesis
