import SpecBundle.Spec.EnvironmentVariable
import SpecBundle.Spec.Form
import SpecBundle.Spec.Table
import SpecBundle.Spec.View
import SpecBundle.Text.Lowercase

/-!
# The data model

Everything that one build is made from. A view or form belongs to the tables whose schema name
it gives, where the case of ASCII letters does not count.
-/

namespace SpecBundle

/-- The specifications of one build. -/
structure DataModel where
  /-- The tables in build order. -/
  tables : List Table
  /-- The global choices. -/
  choices : List GlobalChoice
  /-- The environment variables. -/
  environmentVariables : List EnvironmentVariable
  /-- The views. -/
  views : List View
  /-- The forms. -/
  forms : List Form

namespace DataModel

/-- The views of a table, in authored order. -/
def viewsOf (m : DataModel) (t : Table) : List View :=
  m.views.filter fun v => Text.equalsIgnoringCase v.entity t.schemaName

/-- The forms of a table, in authored order. -/
def formsOf (m : DataModel) (t : Table) : List Form :=
  m.forms.filter fun f => Text.equalsIgnoringCase f.entity t.schemaName

/-- The number of columns, without the calculated ones. -/
def columnCount (m : DataModel) : Nat :=
  (m.tables.flatMap (·.columns)).countP fun c => c.kind != .calculated

/-- The number of quick create forms. -/
def quickCreateFormCount (m : DataModel) : Nat :=
  m.forms.countP fun f => f.kind == .quickCreate

end DataModel

end SpecBundle
