import SpecBundle.Document.Customizations

/-!
# The solution manifest

The manifest names the solution and its publisher and lists the solution's root components: an
entity for each table, then a definition for each environment variable that is generated.
-/

namespace SpecBundle

open Xml (leaf group localizedNames descriptions)

/-- The kind of a root component. -/
inductive ComponentType where
  /-- An entity. -/
  | entity
  /-- The definition of an environment variable. -/
  | environmentVariable
  deriving DecidableEq, Repr

/-- The number by which the platform knows a kind of component. -/
def ComponentType.code : ComponentType → String
  | .entity => "1"
  | .environmentVariable => "380"

/-- A root component of a solution. -/
structure RootComponent where
  /-- Its kind. -/
  type : ComponentType
  /-- Its name. -/
  schemaName : String
  deriving DecidableEq, Repr

namespace Manifest

/-- The root components of a solution. -/
def rootComponents (m : DataModel) (p : Project) : List RootComponent :=
  m.tables.map (fun t => ⟨.entity, t.logicalName⟩) ++
    (if p.emitEnvironmentVariables then
      m.environmentVariables.map fun v => ⟨.environmentVariable, v.schemaName⟩
    else [])

/-- An element that holds explicitly nothing. -/
def nilElement (tag : String) : Xml.Element :=
  .text tag [("xsi:nil", "true")] ""

/-- The fields of an address that hold nothing. -/
def addressFields : List String := [
  "AddressTypeCode", "City", "County", "Country", "Fax", "FreightTermsCode",
  "ImportSequenceNumber", "Latitude", "Line1", "Line2", "Line3", "Longitude", "Name",
  "PostalCode", "PostOfficeBox", "PrimaryContactName", "ShippingMethodCode", "StateOrProvince",
  "Telephone1", "Telephone2", "Telephone3", "TimeZoneRuleVersionNumber", "UPSZone", "UTCOffset",
  "UTCConversionTimeZoneCode"]

/-- The element of an address. -/
def addressXml (number : String) : Xml.Element :=
  group "Address" (leaf "AddressNumber" number :: addressFields.map nilElement)

/-- The element of the publisher. -/
def publisherXml (publisher : Publisher) (language : String) : Xml.Element :=
  group "Publisher" [
    leaf "UniqueName" publisher.uniqueName,
    localizedNames publisher.friendlyName language,
    descriptions publisher.description language,
    nilElement "EMailAddress",
    nilElement "SupportingWebsiteUrl",
    leaf "CustomizationPrefix" publisher.namePrefix,
    leaf "CustomizationOptionValuePrefix" (Decimal.ofNat publisher.optionValuePrefix),
    group "Addresses" [addressXml "1", addressXml "2"]]

/-- The element of a root component. -/
def componentXml (c : RootComponent) : Xml.Element :=
  .empty "RootComponent"
    [("type", c.type.code), ("schemaName", c.schemaName), ("behavior", "0")]

/-- The root of the manifest. -/
def root (m : DataModel) (p : Project) : Xml.Element :=
  .parent "ImportExportXml"
    [("version", "9.2.24.4"), ("SolutionPackageVersion", "9.2"), ("languagecode", p.language),
      ("generatedBy", "CrmLive"), ("xmlns:xsi", instanceNamespace)]
    [group "SolutionManifest" [
      leaf "UniqueName" p.name,
      localizedNames p.friendlyName p.language,
      descriptions p.description p.language,
      leaf "Version" p.version,
      leaf "Managed" "0",
      publisherXml p.publisher p.language,
      group "RootComponents" ((rootComponents m p).map componentXml),
      .empty "MissingDependencies" []]]

end Manifest

end SpecBundle
