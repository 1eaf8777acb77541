import ClientGen.Shape.Basic

/-!
# What can be wrong with a model

A model may fail to load, and a loaded model may not hold what is asked of it.  Each cause names
the shape at fault where there is one; the wording adds that shape at its end.
-/

namespace ClientGen

/-- Why a model cannot be used. -/
inductive ModelFault where
  /-- A text is no shape id. -/
  | badId (fault : ShapeId.Fault)
  /-- The document is no object. -/
  | documentNotObject
  /-- The shapes of the document are no object. -/
  | shapesNotObject
  /-- A shape has a type that does not exist. -/
  | typeUnknown (type : Json) (shape : ShapeId)
  /-- A reference to a shape is empty. -/
  | targetMissing (owner : ShapeId)
  /-- No shape has the id. -/
  | shapeNotFound (id : String)
  /-- A shape refers to one that does not exist. -/
  | targetUnknown (target shape : ShapeId)
  /-- A shape lacks a trait. -/
  | traitExpected (trait : String) (shape : ShapeId)
  /-- A value of an enum is not given. -/
  | enumValueMissing (node : Json)
  /-- The shape to generate for is no service. -/
  | notAService (shape : ShapeId)
  /-- The wanted protocol is not among those of the service. -/
  | protocolNotOffered (protocol : Json) (offered : List String) (shape : ShapeId)
  /-- The protocol is not carried over HTTP. -/
  | protocolNotHttp (protocol : Json) (shape : ShapeId)

namespace ModelFault

/-- The shape at fault. -/
def shape? : ModelFault → Option String
  | typeUnknown _ shape => some shape.text
  | targetMissing owner => some owner.text
  | shapeNotFound id => some id
  | targetUnknown _ shape => some shape.text
  | traitExpected _ shape => some shape.text
  | notAService shape => some shape.text
  | protocolNotOffered _ _ shape => some shape.text
  | protocolNotHttp _ shape => some shape.text
  | _ => none

/-- The cause in words, without the shape at fault. -/
def cause : ModelFault → String
  | badId fault => fault.message
  | documentNotObject => "Model document must be a JSON object"
  | shapesNotObject => "Model 'shapes' must be an object"
  | typeUnknown type _ => "Unsupported shape type '" ++ type.text ++ "'"
  | targetMissing _ => "Missing target reference"
  | shapeNotFound _ => "Shape not found in model"
  | targetUnknown target _ => "Shape references unknown target '" ++ target.text ++ "'"
  | traitExpected trait _ => "Expected trait '" ++ trait ++ "'"
  | enumValueMissing node => "Enum definition is missing a value: " ++ node.shown
  | notAService _ => "Configured service is not a service shape"
  | protocolNotOffered protocol offered _ =>
    "Protocol '" ++ protocol.text ++ "' is not supported by the service; available: "
      ++ ", ".intercalate offered
  | protocolNotHttp protocol _ =>
    "Protocols other than HTTP are not yet implemented: " ++ protocol.text

/-- The fault in words. -/
def message (fault : ModelFault) : String :=
  match fault.shape? with
  | some shape =>
    if shape.isEmpty then fault.cause else fault.cause ++ " (shape: " ++ shape ++ ")"
  | none => fault.cause

end ModelFault

end ClientGen
