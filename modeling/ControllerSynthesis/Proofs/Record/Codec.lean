/-
# Domain types as JSON

A domain type has a shape, a reading of its canonical values, and a value that each
member of it is written as. Decoding a JSON value gives a member of the type.

Key definitions: `Record.Codec`, `Record.Codec.decode`.
-/
import ControllerSynthesis.Cluster.Basic
import ControllerSynthesis.Record.OfJson

namespace ControllerSynthesis

/-- How a domain type is read and written. -/
structure Record.Codec (α : Type) where
  shape : Record.Shape
  /-- What a canonical value of the shape is read as. -/
  ofJson : Json → α
  toJson : α → Json

/-- The member of a domain type that a JSON value stands for. -/
def Record.Codec.decode {α : Type} (c : Record.Codec α) (value : Json) : Record.Result α :=
  (c.shape.ofJson value).map c.ofJson

/-! ### The types of a cluster -/

def Resources.codec : Record.Codec Resources := ⟨shape, ofJson, toJson⟩

def TlsSpec.codec : Record.Codec TlsSpec := ⟨shape, ofJson, toJson⟩

/-- A canonical value of the shape names a service type, so it is never the stand-in. -/
def ServiceType.codec : Record.Codec ServiceType := ⟨shape, fun value => (ofJson? value).getD .clusterIP, toJson⟩

def ExternalAccess.codec : Record.Codec ExternalAccess := ⟨shape, ofJson, toJson⟩

def ImageSpec.codec : Record.Codec ImageSpec := ⟨shape, ofJson, toJson⟩

def PravegaSpec.codec : Record.Codec PravegaSpec := ⟨shape, ofJson, toJson⟩

def ClusterSpec.codec : Record.Codec ClusterSpec := ⟨shape, ofJson, toJson⟩

def Condition.codec : Record.Codec Condition := ⟨shape, ofJson, toJson⟩

def ClusterStatus.codec : Record.Codec ClusterStatus := ⟨shape, ofJson, toJson⟩

def Metadata.codec : Record.Codec Metadata := ⟨shape, ofJson, toJson⟩

def Cluster.codec : Record.Codec Cluster := ⟨shape, ofJson, toJson⟩

end ControllerSynthesis
