import SchemaPlan.Generator
import SchemaPlan.Json.Basic

/-!
# Outcomes as JSON

The JSON form of what a run gives, down to the operations of each artifact.
A constructor without data is a text, one with data an object with the
constructor as its only member; the members of a record come in a fixed
order, and what is missing is null.
-/

namespace SchemaPlan

namespace ReferentialAction

/-- The action as JSON. -/
def json (action : ReferentialAction) : Json :=
  .text action.constant

end ReferentialAction

namespace ForeignKey

/-- The foreign key as JSON. -/
def json (key : ForeignKey) : Json :=
  .object
    [("table", .text key.table),
     ("column", .text key.column),
     ("on_delete", .optional ReferentialAction.json key.onDelete),
     ("on_update", .optional ReferentialAction.json key.onUpdate)]

end ForeignKey

namespace ColumnSpec

/-- The specification as JSON. -/
def json (spec : ColumnSpec) : Json :=
  .object
    [("name", .text spec.name),
     ("kind", .text spec.kind.constant),
     ("length", .optional .number spec.length),
     ("precision", .optional (fun (digits, scale) => .list [.number digits, .number scale])
        spec.precision),
     ("values", .texts spec.values),
     ("nullable", .boolean spec.nullable),
     ("default", .optional .text spec.default),
     ("unsigned", .boolean spec.unsigned),
     ("index", .boolean spec.index),
     ("unique", .boolean spec.unique),
     ("primary", .boolean spec.primary),
     ("after", .optional .text spec.after),
     ("comment", .optional .text spec.comment),
     ("foreign", .optional ForeignKey.json spec.foreign)]

end ColumnSpec

namespace CompositeIndex

/-- The index as JSON. -/
def json (index : CompositeIndex) : Json :=
  .object
    [("kind", .text index.kind.constant),
     ("columns", .texts index.columns),
     ("name", .optional .text index.name)]

end CompositeIndex

namespace Operation

/-- The operation as JSON. -/
def json : Operation → Json
  | id => .text "Id"
  | addColumn spec => .object [("AddColumn", spec.json)]
  | changeColumn spec => .object [("ChangeColumn", spec.json)]
  | dropColumn column => .object [("DropColumn", .text column)]
  | dropForeign column => .object [("DropForeign", .text column)]
  | createIndex index => .object [("CreateIndex", index.json)]
  | softDeletes => .text "SoftDeletes"
  | timestamps => .text "Timestamps"
  | dropTable => .text "DropTable"

end Operation

namespace ArtifactKind

/-- The name of the kind in JSON. -/
def constant : ArtifactKind → String
  | create => "Create"
  | addColumns => "AddColumns"
  | modifyColumns => "ModifyColumns"
  | dropColumns => "DropColumns"

/-- Every kind. -/
def all : List ArtifactKind :=
  [create, addColumns, modifyColumns, dropColumns]

end ArtifactKind

namespace Artifact

/-- The artifact as JSON. -/
def json (artifact : Artifact) : Json :=
  .object
    [("kind", .text artifact.kind.constant),
     ("table", .text artifact.table),
     ("created_at", .text artifact.createdAt.timestamp),
     ("forward", .list (artifact.forward.map Operation.json)),
     ("inverse", .list (artifact.inverse.map Operation.json))]

end Artifact

namespace StoredArtifact

/-- The artifact with its name, its source and its place as JSON. -/
def json (stored : StoredArtifact) : Json :=
  .object
    [("name", .text stored.artifact.name),
     ("artifact", stored.artifact.json),
     ("source", .text stored.artifact.source),
     ("path", .optional .text stored.path)]

end StoredArtifact

namespace Outcome

/-- The outcome as JSON. -/
def json : Outcome → Json
  | upToDate => .text "UpToDate"
  | generated artifacts => .object [("Generated", .list (artifacts.map StoredArtifact.json))]

end Outcome

end SchemaPlan
