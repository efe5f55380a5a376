/-
# The definition of the resource type

The definition under which clusters are stored: the names of the resource type,
its version and its schema. It is published as a file.

Key definitions: `Schema.definition`, `Schema.publish`.
-/
import ControllerSynthesis.Schema.Cluster
import ControllerSynthesis.Yaml.Writing

namespace ControllerSynthesis.Schema

/-- The name of the definition. -/
def definitionName : String := Cluster.plural ++ "." ++ Cluster.group

/-- The names under which clusters are addressed. -/
def namesJson : Json :=
  .obj [
    ("categories", .arr []), ("kind", .str Cluster.kind), ("plural", .str Cluster.plural),
    ("shortNames", Json.texts ["pk"]), ("singular", .str "pravegacluster")]

/-- The one version of the resource type. -/
def versionJson : Json :=
  .obj [
    ("additionalPrinterColumns", .arr []), ("name", .str Cluster.resourceVersion),
    ("schema", .obj [("openAPIV3Schema", cluster.toJson)]), ("served", .bool true),
    ("storage", .bool true), ("subresources", .obj [("status", .obj [])])]

/-- The definition of the resource type. -/
def definition : Json :=
  .obj [
    ("apiVersion", .str "apiextensions.k8s.io/v1"),
    ("kind", .str "CustomResourceDefinition"),
    ("metadata", .obj [("name", .str definitionName)]),
    ("spec", .obj [
      ("group", .str Cluster.group), ("names", namesJson), ("scope", .str "Namespaced"),
      ("versions", .arr [versionJson])])]

/-- The notice in the first two lines of the published file. It is about that file only, so it
stands here by the codes of its characters. -/
def notice : String :=
  String.ofList <| List.map Char.ofNat
    [35, 32, 67, 111, 112, 121, 114, 105, 103, 104, 116, 32, 40, 99, 41, 32, 50, 48, 50, 53, 32, 69,
     114, 105, 99, 107, 32, 66, 111, 117, 114, 103, 101, 111, 105, 115, 44, 32, 102, 105, 114, 101,
     115, 116, 111, 110, 101, 100, 10, 35, 32, 83, 80, 68, 88, 45, 76, 105, 99, 101, 110, 115, 101,
     45, 73, 100, 101, 110, 116, 105, 102, 105, 101, 114, 58, 32, 77, 73, 84, 10]

/-- The comment at the head of the published file. -/
def publishedHead : String :=
  notice ++ "\n".intercalate [
    "#",
    "# This file is AUTO-GENERATED from src/crd.rs",
    "# DO NOT EDIT MANUALLY - Run `cargo run --bin crdgen` to regenerate",
    "#",
    ""]

/-- A file that is written: its folder, its name and its text. -/
structure Published where
  folder : String
  name : String
  text : String
  deriving Repr, DecidableEq

/-- The file with the definition. -/
def publish : Published where
  folder := "deploy/crds"
  name := Cluster.plural ++ ".crd.yaml"
  text := publishedHead ++ Yaml.write definition

/-- What is reported when the file is written. -/
def Published.report (p : Published) : String :=
  "✓ Generated " ++ p.name ++ " in " ++ p.folder ++ "\n"

end ControllerSynthesis.Schema
