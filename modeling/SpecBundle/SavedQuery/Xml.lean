import SpecBundle.SavedQuery.Basic
import SpecBundle.Xml.Element

/-!
# Saved queries as XML

The element of a saved query holds the grid and the query. `savedQueriesXml` is the block of all
saved queries of an entity.
-/

namespace SpecBundle

open Xml (leaf flag group localizedNames descriptions)

/-- The element of a condition. -/
def QueryCondition.toXml (c : QueryCondition) : Xml.Element :=
  let head := [("attribute", c.column), ("operator", c.operator)]
  match c.payload with
  | .none => .empty "condition" head
  | .single value => .empty "condition" (head ++ [("value", value)])
  | .list values => .parent "condition" head (values.map (leaf "value"))

/-- The element of a filter. -/
def QueryFilter.toXml (f : QueryFilter) : Xml.Element :=
  .parent "filter" [("type", f.junction.word)] (f.conditions.map (·.toXml))

namespace SavedQuery

/-- The grid. -/
def gridXml (q : SavedQuery) : Xml.Element :=
  .parent "grid"
    [("name", "resultset"), ("jump", q.jump), ("select", "1"), ("icon", "1"), ("preview", "1")]
    [.parent "row" [("name", "result"), ("id", q.rowId)]
      (q.cells.map fun cell =>
        .empty "cell" [("name", cell.1), ("width", Decimal.ofNat cell.2)])]

/-- The query. -/
def fetchXml (q : SavedQuery) : Xml.Element :=
  .parent "fetch" [("version", "1.0"), ("mapping", "logical")]
    [.parent "entity" [("name", q.entity)]
      ((q.attributes.map fun name => .empty "attribute" [("name", name)]) ++
        (q.orders.map fun order => .empty "order"
          [("attribute", order.1), ("descending", if order.2 then "true" else "false")]) ++
        (q.filter.map (·.toXml)).toList)]

/-- The element of a saved query. -/
def toXml (q : SavedQuery) (version language : String) : Xml.Element :=
  group "savedquery"
    ([leaf "IsCustomizable" "1",
        leaf "CanBeDeleted" "1",
        leaf "isquickfindquery" "0",
        leaf "isprivate" "0",
        flag "isdefault" q.isDefault,
        leaf "savedqueryid" q.id.braced,
        group "layoutxml" [q.gridXml],
        leaf "querytype" "0",
        group "fetchxml" [q.fetchXml],
        leaf "IntroducedVersion" version,
        localizedNames q.displayName language] ++
      (q.description.map (descriptions · language)).toList)

end SavedQuery

/-- The block of the saved queries of an entity. -/
def savedQueriesXml (queries : List SavedQuery) (version language : String) : Xml.Element :=
  group "SavedQueries" [group "savedqueries" (queries.map (·.toXml version language))]

end SpecBundle
