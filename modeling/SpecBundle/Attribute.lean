import SpecBundle.Choices
import SpecBundle.Decimal.Integer
import SpecBundle.Xml.Element

/-!
# Attributes

The platform calls the columns of an entity its attributes. `Attribute.ofColumn?` says which
attribute a column becomes, if any, `Column.attributeNote?` what is recorded on the way, and
`Attribute.toXml` writes the attribute.
-/

namespace SpecBundle

open Xml (leaf leaves flag group localized labels descriptions)

/-- Whether a value must be filled in. -/
inductive RequiredLevel where
  /-- It may be left empty. -/
  | none
  /-- It must be filled in. -/
  | applicationRequired
  deriving DecidableEq, Repr

/-- The word for a level. -/
def RequiredLevel.word : RequiredLevel → String
  | .none => "none"
  | .applicationRequired => "ApplicationRequired"

/-- The kind of an option set. -/
inductive OptionSetKind where
  /-- The two options of a yes or no column. -/
  | bit
  /-- The options of a choice column. -/
  | picklist
  deriving DecidableEq, Repr

/-- The options that an attribute is generated with. -/
structure OptionSet where
  /-- The name of the set. -/
  name : String
  /-- The kind of the set. -/
  kind : OptionSetKind
  /-- What the user sees. -/
  displayName : String
  /-- A description, if there is one. -/
  description : Option String
  /-- The options in display order. -/
  options : List ChoiceOption
  deriving DecidableEq, Repr

/-- An attribute of an entity. -/
structure Attribute where
  /-- The name by which the platform knows the attribute. -/
  physicalName : String
  /-- The platform's name for its type. -/
  typeName : String
  /-- Whether it must be filled in. -/
  requiredLevel : RequiredLevel
  /-- Whether it is the entity's primary name. -/
  isPrimaryName : Bool
  /-- Whether changes are recorded. -/
  isAuditEnabled : Bool
  /-- Whether it is secured. -/
  isSecured : Bool
  /-- The properties that go with its type, in document order. -/
  typeProperties : List (String × String)
  /-- Its options, if it has some. -/
  optionSet : Option OptionSet
  /-- What the user sees. -/
  displayName : String
  /-- A description, if there is one. -/
  description : Option String
  deriving DecidableEq, Repr

/-! ## The attribute of a column -/

namespace Attribute

/-- Where the attribute is shown. -/
def displayMask (a : Attribute) : String :=
  if a.isPrimaryName then
    "PrimaryName|ValidForAdvancedFind|ValidForForm|ValidForGrid|RequiredForForm"
  else "ValidForAdvancedFind|ValidForForm|ValidForGrid"

/-- The level of a column: required columns and the primary column must be filled in, but a
primary column that numbers itself is filled in by the platform. -/
def levelOf (c : Column) (isPrimary : Bool) : RequiredLevel :=
  match c.kind, isPrimary with
  | .autoNumber _ _, true => .none
  | _, _ => if c.required || isPrimary then .applicationRequired else .none

/-- The properties of a line of text. -/
def textProperties (format : String) (maxLength : Option Nat) : List (String × String) :=
  [("AutoNumberFormat", format), ("Format", "text"),
    ("MaxLength", Decimal.ofNat (maxLength.getD 200))]

/-- The properties of a number with decimal places. -/
def decimalProperties (precision : Option Nat) : List (String × String) :=
  [("Precision", Decimal.ofNat (precision.getD 2)), ("MinValue", "-100000000000"),
    ("MaxValue", "100000000000")]

/-- The properties of a date of some format and behaviour. -/
def dateProperties (format behavior : String) : List (String × String) :=
  [("Format", format), ("CanChangeDateTimeBehavior", "1"), ("Behavior", behavior)]

/-- The type and the type's properties of the attribute that a column becomes. Lookups to built-in
principals, calculated columns and columns of an unknown kind become none. -/
def typeOf? : ColumnKind → Option (String × List (String × String))
  | .text maxLength => some ("nvarchar", textProperties "" maxLength)
  | .autoNumber maxLength format => some ("nvarchar", textProperties (format.getD "") maxLength)
  | .memo => some ("ntext", [("Format", "text"), ("MaxLength", "1048576")])
  | .wholeNumber default =>
    some ("int", [("Format", "none"), ("MinValue", "-2147483648"), ("MaxValue", "2147483647")] ++
      (default.map fun n => ("AppDefaultValue", Decimal.ofInt n)).toList)
  | .float precision => some ("float", decimalProperties precision)
  | .decimal precision => some ("decimal", decimalProperties precision)
  | .currency =>
    some ("money", [("Precision", "2"), ("MinValue", "-922337203685477"),
      ("MaxValue", "922337203685477"), ("IsBaseCurrency", "0")])
  | .boolean default => some ("bit", [("AppDefaultValue", Xml.flagText default)])
  | .dateTime => some ("datetime", dateProperties "datetime" "1")
  | .dateOnly => some ("datetime", dateProperties "date" "2")
  | .globalChoice _ => some ("picklist", [])
  | .choice _ => some ("picklist", [])
  | .lookup target =>
    if isBuiltinPrincipal target then none else some ("lookup", [("LookupStyle", "single")])
  | .calculated => none
  | .unknown _ => none

/-- The options of a yes or no column. -/
def yesNo : List ChoiceOption :=
  [⟨1, "Yes"⟩, ⟨0, "No"⟩]

/-- The option set of a column. A global choice is copied into the column, so that two columns of
one choice never share a set. -/
def optionSetOf? (choices : List GlobalChoice) (namePrefix entity physicalName : String)
    (c : Column) : Option OptionSet :=
  match c.kind with
  | .boolean _ =>
    some { name := namePrefix ++ "_" ++ entity ++ "_" ++ physicalName
           kind := .bit
           displayName := c.displayName
           description := some ""
           options := yesNo }
  | .globalChoice name =>
    let choice := choiceNamed? choices name
    some { name := entity ++ "_" ++ physicalName
           kind := .picklist
           displayName := (choice.map (·.displayName)).getD c.displayName
           description := choice.bind (·.description)
           options := (choice.map (·.options)).getD [] }
  | .choice options =>
    some { name := entity ++ "_" ++ physicalName
           kind := .picklist
           displayName := c.displayName
           description := c.description
           options := options }
  | _ => none

/-- The attribute that a column becomes, if it is generated. -/
def ofColumn? (choices : List GlobalChoice) (namePrefix : String) (names : ColumnNames)
    (isPrimary : Bool) (c : Column) : Option Attribute :=
  (typeOf? c.kind).map fun type =>
    { physicalName := names.of c
      typeName := type.1
      requiredLevel := levelOf c isPrimary
      isPrimaryName := isPrimary
      isAuditEnabled := c.audit
      isSecured := c.phi
      typeProperties := type.2
      optionSet := optionSetOf? choices namePrefix names.entity (names.of c) c
      displayName := c.displayName
      description := c.description }

/-- What every attribute says after the version that introduced it. -/
def commonProperties : List (String × String) := [
  ("IsCustomizable", "1"),
  ("IsRenameable", "1"),
  ("CanModifySearchSettings", "1"),
  ("CanModifyRequirementLevelSettings", "1"),
  ("CanModifyAdditionalSettings", "1"),
  ("SourceType", "0"),
  ("IsGlobalFilterEnabled", "0"),
  ("IsSortableEnabled", "0"),
  ("CanModifyGlobalFilterSettings", "1"),
  ("CanModifyIsSortableSettings", "1"),
  ("IsDataSourceSecret", "0"),
  ("IsSearchable", "0"),
  ("IsFilterable", "0"),
  ("IsRetrievable", "0"),
  ("IsLocalizable", "0")]

end Attribute

/-! ## Records -/

/-- The record that a column leaves when it is generated: an unknown kind, or a global choice that
is not defined. -/
def Column.attributeNote? (choices : List GlobalChoice) (entity : String) (c : Column) :
    Option Diagnostic :=
  match c.kind with
  | .globalChoice name =>
    if (choiceNamed? choices name).isSome then none
    else some (.warn .choiceNotFound (entity ++ "." ++ c.schemaName)
      ("global choice \"" ++ name ++ "\" is not defined"))
  | .unknown name =>
    some (.warn .unknownColumnType (entity ++ "." ++ c.schemaName)
      ("unknown column type \"" ++ name ++ "\", attribute omitted"))
  | _ => none

/-! ## Attributes as XML -/

namespace OptionSet

/-- The elements before the name of a set, whose order depends on its kind. -/
def header (s : OptionSet) (version : String) : List Xml.Element :=
  match s.kind with
  | .bit =>
    leaves [("OptionSetType", "bit"), ("IntroducedVersion", version), ("IsCustomizable", "1")]
  | .picklist =>
    leaves [("IsGlobal", "0"), ("IntroducedVersion", version), ("IsCustomizable", "1"),
      ("OptionSetType", "picklist")]

/-- The element of an option. -/
def optionXml (language : String) (o : ChoiceOption) : Xml.Element :=
  .parent "option" [("value", Decimal.ofInt o.value), ("ExternalValue", ""), ("IsHidden", "0")]
    [labels o.label language]

/-- The element of a set. -/
def toXml (s : OptionSet) (version language : String) : Xml.Element :=
  .parent "optionset" [("Name", s.name)]
    (s.header version ++
      [leaf "ExternalTypeName" "",
        localized "displaynames" "displayname" s.displayName language] ++
      (s.description.map (descriptions · language)).toList ++
      [group "options" (s.options.map (optionXml language))])

end OptionSet

/-- The element of an attribute. -/
def Attribute.toXml (a : Attribute) (version language : String) : Xml.Element :=
  .parent "attribute" [("PhysicalName", a.physicalName)]
    ([leaf "Type" a.typeName,
        leaf "Name" a.physicalName,
        leaf "LogicalName" a.physicalName,
        leaf "RequiredLevel" a.requiredLevel.word,
        leaf "DisplayMask" a.displayMask,
        leaf "ImeMode" "auto",
        leaf "ValidForUpdateApi" "1",
        leaf "ValidForReadApi" "1",
        leaf "ValidForCreateApi" "1",
        leaf "IsCustomField" "1",
        flag "IsAuditEnabled" a.isAuditEnabled,
        flag "IsSecured" a.isSecured,
        leaf "IntroducedVersion" version] ++
      leaves commonProperties ++
      leaves a.typeProperties ++
      (if a.typeName = "lookup" then [.empty "LookupTypes" []] else []) ++
      (a.optionSet.map (·.toXml version language)).toList ++
      [localized "displaynames" "displayname" a.displayName language] ++
      (a.description.map (descriptions · language)).toList)

end SpecBundle
